import ColumnStore.Number.Decimal

/-!
# Binary floating point numbers

A floating point number is its bit pattern. A finite pattern stands for the exact
number `significand * 2 ^ exponent` with a sign, and every conversion is stated on
these integers: `ofRatio` rounds an exact ratio to the nearest pattern, a tie to
the even one, and all other conversions into a format go through it.

Magnitudes (patterns without the sign bit) grow with the number they stand for,
which is why rounding can carry into the next exponent by plain addition.
-/

set_option autoImplicit false

namespace ColumnStore

/-- A binary interchange format: significant bits (the hidden one included) and
bits of the exponent field. -/
structure BinaryFormat where
  precision : Nat
  exponentBits : Nat
  deriving DecidableEq, Repr

namespace BinaryFormat

/-- The 32-bit format. -/
abbrev single : BinaryFormat := ⟨24, 8⟩

/-- The 64-bit format. -/
abbrev double : BinaryFormat := ⟨53, 11⟩

/-- Bits of a pattern: the hidden bit gives its place to the sign. -/
abbrev width (format : BinaryFormat) : Nat :=
  format.precision + format.exponentBits

/-- How many fractions share one exponent. -/
def fractions (format : BinaryFormat) : Nat :=
  Nat.pow 2 (format.precision - 1)

/-- The magnitude of infinity; larger magnitudes are not numbers. -/
def infinity (format : BinaryFormat) : Nat :=
  (Nat.pow 2 format.exponentBits - 1) * format.fractions

/-- The exponent of the smallest numbers. -/
def leastExponent (format : BinaryFormat) : Int :=
  3 - (Nat.pow 2 (format.exponentBits - 1) : Nat) - format.precision

end BinaryFormat

/-- A bit pattern of a format. -/
structure Binary (format : BinaryFormat) where
  bits : BitVec format.width
  deriving DecidableEq, Repr

/-- A 32-bit floating point number. -/
abbrev Binary32 := Binary .single

/-- A 64-bit floating point number. -/
abbrev Binary64 := Binary .double

namespace Binary

variable {format : BinaryFormat}

/-- Whether the sign bit is set. -/
def isNegative (number : Binary format) : Bool :=
  number.bits.msb

/-- The pattern without its sign bit. -/
def magnitude (number : Binary format) : Nat :=
  number.bits.toNat % Nat.pow 2 (format.width - 1)

/-- The pattern with a sign and a magnitude. -/
def ofMagnitude (negative : Bool) (magnitude : Nat) : Binary format :=
  ⟨BitVec.ofNat _ (if negative then magnitude + Nat.pow 2 (format.width - 1) else magnitude)⟩

/-- Whether the pattern is no number. -/
def isNaN (number : Binary format) : Bool :=
  format.infinity < number.magnitude

/-- Whether the pattern is one of the two infinities. -/
def isInfinite (number : Binary format) : Bool :=
  number.magnitude = format.infinity

/-- Whether the pattern stands for a number. -/
def isFinite (number : Binary format) : Bool :=
  number.magnitude < format.infinity

/-- Positive zero. -/
def zero : Binary format :=
  ofMagnitude false 0

/-- Infinity with a sign. -/
def infinite (negative : Bool) : Binary format :=
  ofMagnitude negative format.infinity

/-- The quiet pattern that is no number. -/
def nan : Binary format :=
  ofMagnitude false (format.infinity + format.fractions / 2)

/-- The integer part of the finite number a pattern stands for. -/
def significand (number : Binary format) : Nat :=
  let fraction := number.magnitude % format.fractions
  if number.magnitude < format.fractions then fraction else format.fractions + fraction

/-- The power of two of the finite number a pattern stands for. -/
def exponent (number : Binary format) : Int :=
  format.leastExponent + (number.magnitude / format.fractions - 1 : Nat)

/-- Numerator of the absolute value of a finite number. -/
def numerator (number : Binary format) : Nat :=
  number.significand * Nat.pow 2 number.exponent.toNat

/-- Denominator of the absolute value of a finite number. -/
def denominator (number : Binary format) : Nat :=
  Nat.pow 2 (-number.exponent).toNat

/-- Two patterns that stand for the same number; a pattern that is no number equals
nothing, and the two zeros are equal. -/
def same (left right : Binary format) : Bool :=
  !left.isNaN && !right.isNaN &&
    (left.bits == right.bits || (left.magnitude == 0 && right.magnitude == 0))

/-- The quotient rounded to the nearest integer, a tie to the even one. -/
def roundQuotient (numerator denominator : Nat) : Nat :=
  let quotient := numerator / denominator
  let remainder := numerator % denominator
  if 2 * remainder < denominator then quotient
  else if denominator < 2 * remainder then quotient + 1
  else if quotient % 2 = 0 then quotient else quotient + 1

/-- The exponent of the highest bit of a positive ratio. -/
def topExponent (numerator denominator : Nat) : Int :=
  let estimate : Int := (numerator.log2 : Int) - denominator.log2
  if denominator * Nat.pow 2 estimate.toNat ≤ numerator * Nat.pow 2 (-estimate).toNat then
    estimate
  else estimate - 1

/-- The magnitude nearest to a ratio, a tie to the even one; ratios beyond the
largest finite number round to infinity. -/
def roundRatio (format : BinaryFormat) (numerator denominator : Nat) : Nat :=
  if numerator = 0 then 0
  else
    let exponent :=
      max format.leastExponent (topExponent numerator denominator + 1 - format.precision)
    let rounded :=
      roundQuotient (numerator * Nat.pow 2 (-exponent).toNat)
        (denominator * Nat.pow 2 exponent.toNat)
    min format.infinity ((exponent - format.leastExponent).toNat * format.fractions + rounded)

/-- The pattern nearest to a signed ratio. -/
def ofRatio (negative : Bool) (numerator denominator : Nat) : Binary format :=
  ofMagnitude negative (roundRatio format numerator denominator)

/-- The pattern nearest to an integer. -/
def ofInt (n : Int) : Binary format :=
  ofRatio (n < 0) n.natAbs 1

/-- The pattern nearest to a decimal. Decimals of more than a few hundred places
before or behind the point are beyond every format here, and are answered without
the power of ten. -/
def ofDecimal (decimal : Decimal) : Binary format :=
  let negative := decimal.unscaled < 0
  let magnitude := decimal.unscaled.natAbs
  let digits : Int := (Nat.toDigits 10 magnitude).length
  if magnitude = 0 then zero
  else if 400 < digits - decimal.scale then infinite negative
  else if digits - decimal.scale < -400 then ofMagnitude negative 0
  else
    ofRatio negative (magnitude * Nat.pow 10 (-decimal.scale).toNat)
      (Nat.pow 10 decimal.scale.toNat)

/-- The number in another format, rounded to nearest; what is no number stays none. -/
def convert (target : BinaryFormat) (number : Binary format) : Binary target :=
  if number.isNaN then nan
  else if number.isInfinite then infinite number.isNegative
  else ofRatio number.isNegative number.numerator number.denominator

/-- How often two divides a positive number, counted up to a limit. -/
def twos : Nat → Nat → Nat
  | 0, _ => 0
  | limit + 1, n => if n % 2 = 0 then twos limit (n / 2) + 1 else 0

/-- The exact decimal of a finite number, of the smallest scale that is not
negative. -/
def toDecimal? (number : Binary format) : Option Decimal :=
  if !number.isFinite then none
  else if number.significand = 0 then some ⟨0, 0⟩
  else
    let sign : Int := if number.isNegative then -1 else 1
    let fractionBits := (-number.exponent).toNat
    let spare := twos fractionBits number.significand
    let places := fractionBits - spare
    let odd := number.significand / Nat.pow 2 spare
    some ⟨sign * (odd * Nat.pow 5 places * Nat.pow 2 number.exponent.toNat : Nat), places⟩

/-- The cell as octets, least significant first. -/
def bytes (number : Binary format) : Bytes :=
  littleEndian (format.width / 8) number.bits.toNat

end Binary

end ColumnStore
