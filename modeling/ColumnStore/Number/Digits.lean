/-!
# Decimal digit strings

Numbers as lists of decimal digits: reading, writing, padding, and placing the
decimal point. Signs are written by `signed` and read by `signedInt?`, which
takes one leading `+` or `-`.
-/

set_option autoImplicit false

namespace ColumnStore.Digits

/-- The digits of a number, without leading zeros; zero is a single `0`. -/
def ofNat (n : Nat) : List Char :=
  Nat.toDigits 10 n

/-- Whether a character is one of the ten ASCII digits. -/
def isDigit (c : Char) : Bool :=
  '0' ≤ c && c ≤ '9'

/-- The number an ASCII digit stands for. -/
def value (c : Char) : Nat :=
  c.toNat - 48

/-- The number a list of digits stands for. -/
def toNat (digits : List Char) : Nat :=
  digits.foldl (fun n c => 10 * n + value c) 0

/-- Read a nonempty list that holds digits only. -/
def toNat? (digits : List Char) : Option Nat :=
  if digits.isEmpty || digits.any (fun c => !isDigit c) then none else some (toNat digits)

/-- Read digits after an optional sign. -/
def signedInt? : List Char → Option Int
  | '-' :: digits => (toNat? digits).map fun n => -(n : Int)
  | '+' :: digits => (toNat? digits).map fun n => (n : Int)
  | digits => (toNat? digits).map fun n => (n : Int)

/-- A minus sign when asked for, then the text. -/
def signed (negative : Bool) (text : List Char) : List Char :=
  if negative then '-' :: text else text

/-- The digits of an integer, with a minus sign when it is negative. -/
def ofInt (n : Int) : List Char :=
  signed (n < 0) (ofNat n.natAbs)

/-- Zeros in front until the text has the given length. -/
def padLeft (width : Nat) (text : List Char) : List Char :=
  List.replicate (width - text.length) '0' ++ text

/-- Zeros behind until the text has the given length. -/
def padRight (width : Nat) (text : List Char) : List Char :=
  text ++ List.replicate (width - text.length) '0'

/-- The digits of a number, padded with zeros in front. -/
def padded (width n : Nat) : List Char :=
  padLeft width (ofNat n)

/-- An integer padded with zeros after its sign; the sign counts in the width. -/
def paddedInt (width : Nat) (n : Int) : List Char :=
  if n < 0 then '-' :: padded (width - 1) n.natAbs else padded width n.natAbs

/-- The digits with a decimal point `scale` places from the right; a scale that
is zero or negative appends zeros and writes no point. -/
def positional (digits : List Char) (scale : Int) : List Char :=
  if scale ≤ 0 then
    digits ++ List.replicate (-scale).toNat '0'
  else
    let all := padLeft (scale.toNat + 1) digits
    let whole := all.length - scale.toNat
    all.take whole ++ '.' :: all.drop whole

/-- The digits with a point after the first one, when there is more than one. -/
def scientific : List Char → List Char
  | [] => []
  | [digit] => [digit]
  | digit :: rest => digit :: '.' :: rest

end ColumnStore.Digits
