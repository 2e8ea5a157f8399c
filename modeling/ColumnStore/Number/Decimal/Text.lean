import ColumnStore.Number.Decimal
import ColumnStore.Number.Digits

/-!
# The text of a decimal

Writing keeps the scale: `1.50` is written with its trailing zero. Zero is always
`0`. Small numbers with more than five zeros after the point are written in
exponent form (`1.25E-8`), large ones with more than fifteen zeros before the point
as the integer and an exponent (`12e+30`); all others positionally.

Reading takes an optional exponent after the first `e` or `E`, one decimal point,
one sign, and underscores anywhere but in front of the digits.
-/

set_option autoImplicit false

namespace ColumnStore.Decimal

/-- The written form of a decimal. -/
def text (decimal : Decimal) : String :=
  if decimal.unscaled = 0 then "0"
  else
    let digits := Digits.ofNat decimal.unscaled.natAbs
    let unsigned :=
      if 0 < decimal.scale ∧ 5 < decimal.scale - digits.length then
        Digits.scientific digits ++ 'E' :: '-' ::
          Digits.ofNat (decimal.scale - digits.length + 1).toNat
      else if decimal.scale < -15 then
        digits ++ 'e' :: '+' :: Digits.ofNat (-decimal.scale).toNat
      else Digits.positional digits decimal.scale
    String.ofList (Digits.signed (decimal.unscaled < 0) unsigned)

/-- Cut a list at the first element that satisfies the test, dropping that element. -/
def cutAt (test : Char → Bool) (text : List Char) : List Char × Option (List Char) :=
  match text.dropWhile (fun c => !test c) with
  | [] => (text, none)
  | _ :: rest => (text.takeWhile (fun c => !test c), some rest)

/-- Digits with underscores between or behind them. -/
def groupedNat? (text : List Char) : Option Nat :=
  if text.head? = some '_' then none
  else if text.isEmpty then none
  else
    let digits := text.filter (· ≠ '_')
    if digits.any (fun c => !Digits.isDigit c) then none else some (Digits.toNat digits)

/-- Grouped digits after at most one sign. -/
def groupedInt? : List Char → Option Int
  | '-' :: digits => (groupedNat? digits).map fun n => -(n : Int)
  | '+' :: digits => (groupedNat? digits).map fun n => (n : Int)
  | digits => (groupedNat? digits).map fun n => (n : Int)

/-- The exponent behind the mark, zero without one; it has to fit 128 bits. -/
def exponent? : Option (List Char) → Option Int
  | none => some 0
  | some digits => do
      let exponent ← Digits.signedInt? digits
      let fitting ← IntegerKind.int128.ofInt? exponent
      return fitting.val

/-- Read a decimal. The scale is the number of places after the point less the
exponent and has to fit 64 bits. -/
def parseChars? (text : List Char) : Option Decimal := do
  let (base, mark) := cutAt (fun c => c = 'e' || c = 'E') text
  let exponent ← exponent? mark
  let (whole, fraction) := cutAt (· = '.') base
  let fraction := fraction.getD []
  let places := (fraction.filter (· ≠ '_')).length
  let scale ← IntegerKind.int64.ofInt? (places - exponent)
  let unscaled ← groupedInt? (whole ++ fraction)
  return ⟨unscaled, scale.val⟩

/-- Read a decimal from text. -/
def parse? (text : String) : Option Decimal :=
  parseChars? text.toList

end ColumnStore.Decimal
