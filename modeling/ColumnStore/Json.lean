import ColumnStore.Json.Number
import ColumnStore.Text.Hex

/-!
# JSON texts

A reader of whole JSON texts and a writer of JSON strings. Strings whose escapes are
not well formed as characters (a lone half of a surrogate pair) are kept as `none`:
they are allowed where nobody asks for the string.
-/

set_option autoImplicit false

namespace ColumnStore

/-- A JSON text. -/
inductive Json
  | null
  | bool (truth : Bool)
  | number (written : JsonNumber)
  | string (content : Option String)
  | array (items : List Json)
  | object (members : List (Option String × Json))

namespace Json

/-- White space between tokens. -/
def isSpace (c : Char) : Bool :=
  c = ' ' || c = '\n' || c = '\t' || c = '\r'

/-- Skip white space. -/
def skip (text : List Char) : List Char :=
  text.dropWhile isSpace

/-- Four hexadecimal digits. -/
def hexUnit : List Char → Option (Nat × List Char)
  | a :: b :: c :: d :: rest => do
      let a ← Hex.digitValue? a
      let b ← Hex.digitValue? b
      let c ← Hex.digitValue? c
      let d ← Hex.digitValue? d
      return (4096 * a + 256 * b + 16 * c + d, rest)
  | _ => none

/-- What a character behind a backslash stands for. -/
def simpleEscape? : Char → Option Char
  | '"' => some '"'
  | '\\' => some '\\'
  | '/' => some '/'
  | 'b' => some '\x08'
  | 'f' => some '\x0c'
  | 'n' => some '\n'
  | 'r' => some '\r'
  | 't' => some '\t'
  | _ => none

/-- One element of a string: a character, or a 16-bit unit spelled by its number. -/
inductive Piece
  | character (c : Char)
  | unit (n : Nat)

/-- The pieces of a string behind its opening quote, and the text behind the closing
one. -/
def pieces : Nat → List Char → Option (List Piece × List Char)
  | 0, _ => none
  | fuel + 1, text =>
      match text with
      | '"' :: rest => some ([], rest)
      | '\\' :: 'u' :: rest => do
          let (unit, rest) ← hexUnit rest
          let (others, rest) ← pieces fuel rest
          return (.unit unit :: others, rest)
      | '\\' :: c :: rest => do
          let c ← simpleEscape? c
          let (others, rest) ← pieces fuel rest
          return (.character c :: others, rest)
      | c :: rest =>
          if c.toNat < 32 ∨ c = '\\' then none
          else do
            let (others, rest) ← pieces fuel rest
            return (.character c :: others, rest)
      | [] => none

/-- Whether a unit is the first half of a pair. -/
def isHighHalf (n : Nat) : Bool := 0xD800 ≤ n && n ≤ 0xDBFF

/-- Whether a unit is the second half of a pair. -/
def isLowHalf (n : Nat) : Bool := 0xDC00 ≤ n && n ≤ 0xDFFF

/-- The characters of the pieces; halves have to come in pairs. -/
def characters : List Piece → Option (List Char)
  | [] => some []
  | .character c :: rest => (characters rest).map (c :: ·)
  | .unit high :: .unit low :: rest =>
      if isHighHalf high then
        if isLowHalf low then
          (characters rest).map
            (Char.ofNat (0x10000 + 1024 * (high - 0xD800) + (low - 0xDC00)) :: ·)
        else none
      else if isLowHalf high then none
      else (characters (.unit low :: rest)).map (Char.ofNat high :: ·)
  | .unit n :: rest =>
      if isHighHalf n || isLowHalf n then none else (characters rest).map (Char.ofNat n :: ·)

/-- A string behind its opening quote. -/
def readString (text : List Char) : Option (Option String × List Char) := do
  let (found, rest) ← pieces (text.length + 1) text
  return ((characters found).map String.ofList, rest)

/-- The leading digits and the rest. -/
def digits (text : List Char) : List Char × List Char :=
  (text.takeWhile Char.isDigit, text.dropWhile Char.isDigit)

/-- The digits in front of the point: a single zero, or digits that start with none. -/
def readWhole (text : List Char) : Option (List Char × List Char) :=
  match digits text with
  | ([], _) => none
  | ('0' :: _ :: _, _) => none
  | found => some found

/-- A point with at least one digit behind it, or no point. -/
def readFraction : List Char → Option (Option (List Char) × List Char)
  | '.' :: text =>
      match digits text with
      | ([], _) => none
      | (found, rest) => some (some found, rest)
  | text => some (none, text)

/-- The digits of an exponent, at least one. -/
def readPlaces (isNegative : Bool) (text : List Char) :
    Option (Option (Bool × List Char) × List Char) :=
  match digits text with
  | ([], _) => none
  | (found, rest) => some (some (isNegative, found), rest)

/-- An exponent, or none. -/
def readExponent : List Char → Option (Option (Bool × List Char) × List Char)
  | c :: text =>
      if c = 'e' ∨ c = 'E' then
        match text with
        | '-' :: rest => readPlaces true rest
        | '+' :: rest => readPlaces false rest
        | rest => readPlaces false rest
      else some (none, c :: text)
  | [] => some (none, [])

/-- A number. -/
def readNumber (text : List Char) : Option (JsonNumber × List Char) := do
  let (isNegative, text) :=
    match text with
    | '-' :: rest => (true, rest)
    | rest => (false, rest)
  let (whole, text) ← readWhole text
  let (fraction, text) ← readFraction text
  let (exponent, text) ← readExponent text
  return ({ isNegative, whole, fraction, exponent }, text)

mutual

/-- A value, white space in front of it skipped. -/
def readValue : Nat → List Char → Option (Json × List Char)
  | 0, _ => none
  | fuel + 1, text =>
      match skip text with
      | 'n' :: 'u' :: 'l' :: 'l' :: rest => some (.null, rest)
      | 't' :: 'r' :: 'u' :: 'e' :: rest => some (.bool true, rest)
      | 'f' :: 'a' :: 'l' :: 's' :: 'e' :: rest => some (.bool false, rest)
      | '"' :: rest => (readString rest).map fun (content, rest) => (.string content, rest)
      | '[' :: rest =>
          match skip rest with
          | ']' :: rest => some (.array [], rest)
          | rest => (readItems fuel rest).map fun (items, rest) => (.array items, rest)
      | '\x7b' :: rest =>
          match skip rest with
          | '\x7d' :: rest => some (.object [], rest)
          | rest => (readMembers fuel rest).map fun (members, rest) => (.object members, rest)
      | rest => (readNumber rest).map fun (written, rest) => (.number written, rest)

/-- The items of an array up to its closing bracket. -/
def readItems : Nat → List Char → Option (List Json × List Char)
  | 0, _ => none
  | fuel + 1, text => do
      let (item, rest) ← readValue fuel text
      match skip rest with
      | ',' :: rest => do
          let (items, rest) ← readItems fuel rest
          return (item :: items, rest)
      | ']' :: rest => return ([item], rest)
      | _ => none

/-- The members of an object up to its closing brace. -/
def readMembers : Nat → List Char → Option (List (Option String × Json) × List Char)
  | 0, _ => none
  | fuel + 1, text => do
      match skip text with
      | '"' :: rest => do
          let (key, rest) ← readString rest
          match skip rest with
          | ':' :: rest => do
              let (value, rest) ← readValue fuel rest
              match skip rest with
              | ',' :: rest => do
                  let (members, rest) ← readMembers fuel rest
                  return ((key, value) :: members, rest)
              | '\x7d' :: rest => return ([(key, value)], rest)
              | _ => none
          | _ => none
      | _ => none

end

/-- Read a text that holds one value and white space. -/
def parse? (text : String) : Option Json :=
  match readValue (2 * text.length + 2) text.toList with
  | some (value, rest) => if (skip rest).isEmpty then some value else none
  | none => none

/-- How a character is written inside a string: quotes, backslashes and controls are
escaped. -/
def escape (c : Char) : List Char :=
  if c = '"' ∨ c = '\\' then ['\\', c]
  else if c = '\n' then ['\\', 'n']
  else if c = '\r' then ['\\', 'r']
  else if c = '\t' then ['\\', 't']
  else if c.toNat = 8 then ['\\', 'b']
  else if c.toNat = 12 then ['\\', 'f']
  else if c.toNat < 32 then
    ['\\', 'u', '0', '0', Hex.digit (c.toNat / 16), Hex.digit (c.toNat % 16)]
  else [c]

/-- A string between its quotes. -/
def quote (text : String) : String :=
  String.ofList ('"' :: text.toList.flatMap escape ++ ['"'])

end Json

end ColumnStore
