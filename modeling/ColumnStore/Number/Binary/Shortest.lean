import ColumnStore.Number.Binary
import ColumnStore.Number.Digits

/-!
# Shortest digits of a floating point number

The shortest digits are the fewest that read back to the same pattern, and among
those the nearest to the number. The reals that round to a pattern form an interval
around it, closed when the significand is even. For one digit, two digits, and so on,
`shortest` looks at the two neighbours of the number on that decimal grid, and the
first grid with a neighbour in the interval decides.

Two texts are written with these digits: `text`, which is always positional, and
`textWithPoint`, which changes to an exponent outside a range of magnitudes. They
differ in which digits they take when two are equally near.
-/

set_option autoImplicit false

namespace ColumnStore

/-- Digits as an integer, with a power of ten. -/
structure DecimalDigits where
  coefficient : Nat
  exponent : Int
  deriving DecidableEq, Repr

namespace DecimalDigits

/-- Drop at most `limit` trailing zeros of the coefficient. -/
def trim : Nat → DecimalDigits → DecimalDigits
  | 0, digits => digits
  | limit + 1, digits =>
      if digits.coefficient % 10 = 0 then
        trim limit ⟨digits.coefficient / 10, digits.exponent + 1⟩
      else digits

end DecimalDigits

/-- Which of two equally near digit strings is written. -/
inductive Tie
  | upper | even
  deriving DecidableEq, Repr

namespace Binary

variable {format : BinaryFormat}

/-- The interval of reals that round to a positive number, as numerators over one
denominator: lower end, the number, upper end. -/
structure Interval where
  lower : Nat
  value : Nat
  upper : Nat
  denominator : Nat
  closed : Bool

/-- The interval of a positive finite number. It reaches half way to each neighbour;
below a power of two the neighbour is only half as far. -/
def interval (number : Binary format) : Interval :=
  let significand := number.significand
  let narrow := significand = format.fractions ∧ 2 * format.fractions ≤ number.magnitude
  let scale := Nat.pow 2 (number.exponent - 2).toNat
  { lower := (4 * significand - (if narrow then 1 else 2)) * scale
    value := 4 * significand * scale
    upper := (4 * significand + 2) * scale
    denominator := Nat.pow 2 (2 - number.exponent).toNat
    closed := significand % 2 = 0 }

/-- Whether `coefficient * 10 ^ exponent` lies in the interval. -/
def Interval.covers (interval : Interval) (coefficient : Nat) (exponent : Int) : Bool :=
  let point := coefficient * Nat.pow 10 exponent.toNat * interval.denominator
  let lower := interval.lower * Nat.pow 10 (-exponent).toNat
  let upper := interval.upper * Nat.pow 10 (-exponent).toNat
  if interval.closed then lower ≤ point && point ≤ upper else lower < point && point < upper

/-- The neighbour of the number on the grid of multiples of `10 ^ exponent` that lies
in the interval, the nearer of two. -/
def Interval.onGrid? (interval : Interval) (tie : Tie) (exponent : Int) : Option DecimalDigits :=
  let numerator := interval.value * Nat.pow 10 (-exponent).toNat
  let unit := Nat.pow 10 exponent.toNat * interval.denominator
  let below := numerator / unit
  let remainder := numerator % unit
  let upperNearer : Bool :=
    unit < 2 * remainder || (unit = 2 * remainder && (tie = .upper || below % 2 = 1))
  match interval.covers below exponent, interval.covers (below + 1) exponent with
  | true, false => some ⟨below, exponent⟩
  | false, true => some ⟨below + 1, exponent⟩
  | true, true => some ⟨if upperNearer then below + 1 else below, exponent⟩
  | false, false => none

/-- The exponent of the leading digit of a positive ratio. -/
def leadingExponent (numerator denominator : Nat) : Int :=
  let estimate : Int :=
    ((Nat.toDigits 10 numerator).length : Int) - (Nat.toDigits 10 denominator).length
  if denominator * Nat.pow 10 estimate.toNat ≤ numerator * Nat.pow 10 (-estimate).toNat then estimate
  else estimate - 1

/-- Try finer and finer grids; after the last one the number itself is cut. -/
def Interval.firstGrid (interval : Interval) (tie : Tie) : Nat → Int → DecimalDigits
  | 0, exponent =>
      ⟨interval.value * Nat.pow 10 (-exponent).toNat /
        (Nat.pow 10 exponent.toNat * interval.denominator), exponent⟩
  | tries + 1, exponent =>
      match interval.onGrid? tie exponent with
      | some digits => digits
      | none => interval.firstGrid tie tries (exponent - 1)

/-- The shortest digits of a positive finite number. Seventeen digits are enough for
both formats. -/
def shortest (tie : Tie) (number : Binary format) : DecimalDigits :=
  let interval := number.interval
  (interval.firstGrid tie 17 (leadingExponent interval.value interval.denominator)).trim 17

/-- The positional text: never an exponent, and no point in whole numbers. -/
def text (number : Binary format) : String :=
  if number.isNaN then "NaN"
  else
    let unsigned :=
      if number.isInfinite then "inf".toList
      else if number.magnitude = 0 then ['0']
      else
        let digits := number.shortest .upper
        Digits.positional (Digits.ofNat digits.coefficient) (-digits.exponent)
    String.ofList (Digits.signed number.isNegative unsigned)

/-- Which leading exponents are written positionally. -/
structure PositionalRange where
  least : Int
  greatest : Int

/-- The text of a finite number that always shows it is no integer: whole numbers end
in `.0`, and numbers outside the positional range carry a signed exponent. -/
def textWithPoint (range : PositionalRange) (number : Binary format) : String :=
  let unsigned :=
    if number.magnitude = 0 then ['0', '.', '0']
    else
      let shortest := number.shortest .even
      let digits := Digits.ofNat shortest.coefficient
      let leading := shortest.exponent + digits.length - 1
      if range.least ≤ leading ∧ leading ≤ range.greatest then
        if shortest.exponent < 0 then Digits.positional digits (-shortest.exponent)
        else Digits.positional digits (-shortest.exponent) ++ ['.', '0']
      else
        Digits.scientific digits ++ 'e' :: (if leading < 0 then '-' else '+') ::
          Digits.ofNat leading.natAbs
  String.ofList (Digits.signed number.isNegative unsigned)

end Binary

end ColumnStore
