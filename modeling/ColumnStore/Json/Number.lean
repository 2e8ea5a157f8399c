import ColumnStore.Number.Binary
import ColumnStore.Number.Digits

/-!
# JSON numbers

A number is kept as it is written, in parts: sign, digits in front of the point, digits
behind it, exponent. How it reads depends on who asks. Integers are taken from numbers
without point and exponent. A floating point number is scaled in one step from the
leading digits that fit 64 bits, so it can differ in the last bit from the nearest one.
-/

set_option autoImplicit false

namespace ColumnStore

/-- A number as written. -/
structure JsonNumber where
  isNegative : Bool
  whole : List Char
  /-- Digits behind the point, when there is one. -/
  fraction : Option (List Char)
  /-- Whether the exponent is negative, and its digits, when there is one. -/
  exponent : Option (Bool × List Char)
  deriving DecidableEq, Repr

namespace JsonNumber

/-- The integer written, for a number without point and exponent. -/
def integer? (number : JsonNumber) : Option Int :=
  match number.fraction, number.exponent with
  | none, none =>
      let magnitude : Int := Digits.toNat number.whole
      some (if number.isNegative then -magnitude else magnitude)
  | _, _ => none

/-- The integer written, when it fits a 64-bit word: unsigned without a minus sign,
signed and not zero with one. -/
def word? (number : JsonNumber) : Option Int :=
  number.integer?.filter fun n =>
    if number.isNegative then n ≠ 0 && IntegerKind.int64.minimum ≤ n
    else n ≤ IntegerKind.size.maximum

/-- Leading digits as a 64-bit integer, and the power of ten they stand at. -/
structure Scaled where
  significand : Nat
  exponent : Int

/-- Whether one more digit still fits 64 bits. -/
def Scaled.takes (scaled : Scaled) (digit : Char) : Bool :=
  10 * scaled.significand + Digits.value digit < 18446744073709551616

/-- Take up digits in front of the point; those that no longer fit count as places. -/
def Scaled.addWhole (scaled : Scaled) : List Char → Scaled
  | [] => scaled
  | digit :: rest =>
      if scaled.takes digit then
        addWhole ⟨10 * scaled.significand + Digits.value digit, scaled.exponent⟩ rest
      else ⟨scaled.significand, scaled.exponent + (digit :: rest).length⟩

/-- Take up digits behind the point; from the first that no longer fits on they are
dropped. -/
def Scaled.addFraction (scaled : Scaled) : List Char → Scaled
  | [] => scaled
  | digit :: rest =>
      if scaled.takes digit then
        addFraction ⟨10 * scaled.significand + Digits.value digit, scaled.exponent - 1⟩ rest
      else scaled

/-- The power of ten as a floating point number. -/
def powerOfTen (places : Nat) : Binary64 :=
  Binary.ofRatio false (Nat.pow 10 places) 1

/-- The product of two positive numbers, rounded. -/
def product (left right : Binary64) : Binary64 :=
  Binary.ofRatio false (left.numerator * right.numerator)
    (left.denominator * right.denominator)

/-- The quotient of two positive numbers, rounded. -/
def quotient (left right : Binary64) : Binary64 :=
  Binary.ofRatio false (left.numerator * right.denominator)
    (left.denominator * right.numerator)

/-- Divide by a power of ten, in steps when it is beyond the greatest finite power. -/
def scaleDown (number : Binary64) (places : Nat) : Binary64 :=
  if places ≤ 308 then quotient number (powerOfTen places)
  else if number.magnitude = 0 then number
  else scaleDown (quotient number (powerOfTen 308)) (places - 308)
termination_by places

/-- The magnitude of scaled digits; infinite ones have none. -/
def Scaled.toDouble? (scaled : Scaled) : Option Binary64 :=
  let number : Binary64 := Binary.ofInt scaled.significand
  if scaled.exponent < 0 then some (scaleDown number scaled.exponent.natAbs)
  else if scaled.exponent ≤ 308 then
    some (product number (powerOfTen scaled.exponent.toNat)) |>.filter (·.isFinite)
  else if number.magnitude = 0 then some number
  else none

/-- The magnitude behind an exponent. Exponents that no longer fit 32 bits make zero of
small numbers and nothing of large ones. -/
def magnitude? (number : JsonNumber) : Option Binary64 :=
  let scaled := (Scaled.addWhole ⟨0, 0⟩ number.whole).addFraction (number.fraction.getD [])
  match number.exponent with
  | none => scaled.toDouble?
  | some (isNegative, digits) =>
      let places : Int := Digits.toNat digits
      if IntegerKind.int32.maximum < places then
        if scaled.significand ≠ 0 ∧ !isNegative then none else some Binary.zero
      else
        let exponent := if isNegative then scaled.exponent - places else scaled.exponent + places
        Scaled.toDouble? ⟨scaled.significand, exponent⟩

/-- The floating point number written, integers that fit a word rounded to nearest. -/
def toBinary? (format : BinaryFormat) (number : JsonNumber) : Option (Binary format) :=
  match number.word? with
  | some n => some (Binary.ofInt n)
  | none =>
      number.magnitude?.map fun magnitude =>
        (Binary.ofMagnitude number.isNegative magnitude.magnitude : Binary64).convert format

end JsonNumber

end ColumnStore
