import ColumnStore.Number.IntegerKind

/-!
# Exact decimals

A decimal is an integer and a scale, and stands for `unscaled * 10 ^ (-scale)`.
The scale is kept by every operation that does not change it, so `1.50` and `1.5`
are different decimals that stand for the same number (`sameNumber`).
A decimal column stores decimals of one scale as integers; `toUnscaled?` and
`fromUnscaled` go between the two, dropping the digits beyond the scale.
-/

set_option autoImplicit false

namespace ColumnStore

/-- The number `unscaled * 10 ^ (-scale)`. -/
structure Decimal where
  unscaled : Int
  scale : Int
  deriving DecidableEq, Repr

namespace Decimal

/-- A decimal of scale zero. -/
def ofInt (n : Int) : Decimal :=
  ⟨n, 0⟩

/-- Multiply by a power of ten; zero stays zero whatever the power. -/
def shiftUp (n : Int) (places : Nat) : Int :=
  if n = 0 then 0 else n * (Nat.pow 10 places : Nat)

/-- Divide by a power of ten, dropping the remainder; zero stays zero. -/
def shiftDown (n : Int) (places : Nat) : Int :=
  if n = 0 then 0 else n.tdiv (Nat.pow 10 places : Nat)

/-- The unscaled integer at another scale: exact when the scale grows, cut toward
zero when it shrinks. -/
def unscaledAt (decimal : Decimal) (scale : Int) : Int :=
  if decimal.scale ≤ scale then shiftUp decimal.unscaled (scale - decimal.scale).toNat
  else shiftDown decimal.unscaled (decimal.scale - scale).toNat

/-- Whether two decimals stand for the same number. -/
def sameNumber (left right : Decimal) : Bool :=
  if left.unscaled = 0 ∨ right.unscaled = 0 then left.unscaled = right.unscaled
  else if left.scale ≤ right.scale then left.unscaledAt right.scale = right.unscaled
  else left.unscaled = right.unscaledAt left.scale

/-- The decimal of an unscaled integer cell. -/
def fromUnscaled (unscaled : Int) (scale : Nat) : Decimal :=
  ⟨unscaled, scale⟩

/-- At its own scale a decimal has the integer that it was made of. -/
theorem unscaledAt_fromUnscaled (unscaled : Int) (scale : Nat) :
    (fromUnscaled unscaled scale).unscaledAt scale = unscaled := by
  rw [unscaledAt, fromUnscaled, if_pos (Int.le_refl _), Int.sub_self]
  show shiftUp unscaled 0 = unscaled
  rw [shiftUp]
  split
  · next zero => exact zero.symm
  · exact Int.mul_one unscaled

/-- The unscaled integer of a decimal at `scale`, when it fits 128 bits. -/
def toUnscaled? (decimal : Decimal) (scale : Nat) : Option (IntegerKind.int128.Number) :=
  IntegerKind.int128.ofInt? (decimal.unscaledAt scale)

theorem toUnscaled?_fromUnscaled (unscaled : IntegerKind.int128.Number) (scale : Nat) :
    (fromUnscaled unscaled.val scale).toUnscaled? scale = some unscaled := by
  rw [toUnscaled?, unscaledAt_fromUnscaled, IntegerKind.ofInt?_val]

/-- The integer a decimal stands for, when it is one and fits 128 bits. -/
def toInteger? (decimal : Decimal) : Option (IntegerKind.int128.Number) :=
  (decimal.toUnscaled? 0).filter fun n => (fromUnscaled n.val 0).sameNumber decimal

end Decimal

end ColumnStore
