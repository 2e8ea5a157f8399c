import ColumnStore.Text.Hex

/-!
# Integer storage kinds

The integers a column or parameter can hold: five signed kinds and the unsigned
size kind. A `Number` of a kind carries the proof that it lies in the kind's
range, so narrowing is a partial function (`ofInt?`) or drops high bits
(`wrap`), never silent.
-/

set_option autoImplicit false

namespace ColumnStore

/-- The widths an integer cell can have. -/
inductive IntegerKind
  | int8 | int16 | int32 | int64 | int128 | size
  deriving DecidableEq, Repr

namespace IntegerKind

/-- Octets of one cell. -/
def width : IntegerKind → Nat
  | int8 => 1
  | int16 => 2
  | int32 => 4
  | int64 => 8
  | int128 => 16
  | size => 8

/-- Smallest number of the kind. -/
def minimum : IntegerKind → Int
  | int8 => -128
  | int16 => -32768
  | int32 => -2147483648
  | int64 => -9223372036854775808
  | int128 => -170141183460469231731687303715884105728
  | size => 0

/-- Largest number of the kind. -/
def maximum : IntegerKind → Int
  | int8 => 127
  | int16 => 32767
  | int32 => 2147483647
  | int64 => 9223372036854775807
  | int128 => 170141183460469231731687303715884105727
  | size => 18446744073709551615

/-- How many numbers the kind has. -/
def span : IntegerKind → Int
  | int8 => 256
  | int16 => 65536
  | int32 => 4294967296
  | int64 => 18446744073709551616
  | int128 => 340282366920938463463374607431768211456
  | size => 18446744073709551616

theorem span_eq (kind : IntegerKind) : kind.span = kind.maximum - kind.minimum + 1 := by
  cases kind <;> rfl

theorem span_pos (kind : IntegerKind) : 0 < kind.span := by
  cases kind <;> decide

theorem minimum_le_zero (kind : IntegerKind) : kind.minimum ≤ 0 := by
  cases kind <;> decide

theorem zero_le_maximum (kind : IntegerKind) : 0 ≤ kind.maximum := by
  cases kind <;> decide

theorem within_int128 (kind : IntegerKind) :
    int128.minimum ≤ kind.minimum ∧ kind.maximum ≤ int128.maximum := by
  cases kind <;> decide

/-- An integer that fits the kind. -/
abbrev Number (kind : IntegerKind) := { n : Int // kind.minimum ≤ n ∧ n ≤ kind.maximum }

/-- Zero fits every kind. -/
def zero (kind : IntegerKind) : kind.Number :=
  ⟨0, kind.minimum_le_zero, kind.zero_le_maximum⟩

/-- The number as a member of the kind, when it fits. -/
def ofInt? (kind : IntegerKind) (n : Int) : Option kind.Number :=
  if fits : kind.minimum ≤ n ∧ n ≤ kind.maximum then some ⟨n, fits⟩ else none

/-- The member of the kind that agrees with `n` in the low bits. -/
def wrap (kind : IntegerKind) (n : Int) : kind.Number :=
  ⟨(n - kind.minimum) % kind.span + kind.minimum, by
    have lower := Int.emod_nonneg (n - kind.minimum) (Int.ne_of_gt kind.span_pos)
    have upper := Int.emod_lt_of_pos (n - kind.minimum) kind.span_pos
    have span := kind.span_eq
    omega⟩

/-- The value the engine reserves for a missing number: the smallest of a signed
kind, the largest of the size kind. -/
def sentinel (kind : IntegerKind) : kind.Number :=
  match kind with
  | int8 => ⟨-128, by decide⟩
  | int16 => ⟨-32768, by decide⟩
  | int32 => ⟨-2147483648, by decide⟩
  | int64 => ⟨-9223372036854775808, by decide⟩
  | int128 => ⟨-170141183460469231731687303715884105728, by decide⟩
  | size => ⟨18446744073709551615, by decide⟩

/-- The cell as octets, two's complement, least significant first. -/
def bytes (kind : IntegerKind) (n : kind.Number) : Bytes :=
  littleEndian kind.width (n.val % kind.span).toNat

theorem ofInt?_eq_some {kind : IntegerKind} {n : Int} {m : kind.Number} :
    kind.ofInt? n = some m ↔ m.val = n := by
  unfold ofInt?
  split
  · next fits => simp [Subtype.ext_iff, eq_comm]
  · next outside =>
      simp only [reduceCtorEq, false_iff]
      rintro rfl
      exact outside m.property

theorem ofInt?_val {kind : IntegerKind} (n : kind.Number) : kind.ofInt? n.val = some n :=
  ofInt?_eq_some.2 rfl

theorem ofInt?_eq_none {kind : IntegerKind} {n : Int} :
    kind.ofInt? n = none ↔ n < kind.minimum ∨ kind.maximum < n := by
  unfold ofInt?
  split <;> simp <;> omega

theorem wrap_val {kind : IntegerKind} (n : kind.Number) : kind.wrap n.val = n := by
  have fits := n.property
  have span := kind.span_eq
  apply Subtype.ext
  simp only [wrap]
  rw [Int.emod_eq_of_lt (by omega) (by omega)]
  omega

end IntegerKind

end ColumnStore
