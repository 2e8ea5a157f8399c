import ColumnStore.Calendar.Timestamp
import ColumnStore.Text.CharacterClass

/-!
# Reading dates and times

A written date or time is read item by item: a `Pattern` lists numbers, fixed
characters and places where blanks may stand. Blanks in front of a number are skipped,
and each number has at least one digit and at most as many as its field allows; a year
with a sign may have any number of digits. What the numbers say is collected in
`Fields`, from which the date and the time are built at the end.
-/

set_option autoImplicit false

namespace ColumnStore.Calendar

/-- A number that a pattern reads. -/
inductive Field
  | year | month | day | hour | minute | second
  deriving DecidableEq, Repr

/-- One item of a pattern. -/
inductive Item
  | number (field : Field)
  | literal (character : Char)
  | blanks
  | fraction
  deriving DecidableEq, Repr

/-- The items of a written date or time. -/
abbrev Pattern := List Item

/-- What has been read so far. -/
structure Fields where
  year : Int := 0
  month : Nat := 0
  day : Nat := 0
  hour : Nat := 0
  minute : Nat := 0
  second : Nat := 0
  nano : Nat := 0

namespace Field

/-- The most digits a number without a sign has. -/
def places : Field → Nat
  | year => 4
  | _ => 2

/-- Store a number in its field; the fields of a clock reject numbers out of their
range. -/
def store (field : Field) (n : Int) (fields : Fields) : Option Fields :=
  match field with
  | year => some { fields with year := n }
  | month => some { fields with month := n.toNat }
  | day => some { fields with day := n.toNat }
  | hour => if n ≤ 23 then some { fields with hour := n.toNat } else none
  | minute => if n ≤ 59 then some { fields with minute := n.toNat } else none
  | second => if n ≤ 60 then some { fields with second := n.toNat } else none

end Field

/-- The leading digits of a text, at most `places` of them, and the rest. -/
def digitRun (places : Nat) (text : List Char) : List Char × List Char :=
  let run := (text.take places).takeWhile Digits.isDigit
  (run, text.drop run.length)

/-- Read a number of at most `places` digits. -/
def readNumber (places : Nat) (text : List Char) : Option (Nat × List Char) :=
  match digitRun places text with
  | ([], _) => none
  | (digits, rest) => some (Digits.toNat digits, rest)

/-- Read a year: up to four digits, or a sign and any number of digits. -/
def readYear : List Char → Option (Int × List Char)
  | '-' :: text => (readNumber text.length text).map fun (n, rest) => (-(n : Int), rest)
  | '+' :: text => (readNumber text.length text).map fun (n, rest) => ((n : Int), rest)
  | text => (readNumber 4 text).map fun (n, rest) => ((n : Int), rest)

/-- Read a fraction of a second behind a point, to the nanosecond; further digits are
dropped. Without a point there is no fraction. -/
def readFraction : List Char → Option (Nat × List Char)
  | '.' :: text =>
      match digitRun 9 text with
      | ([], _) => none
      | (digits, rest) =>
          some (Digits.toNat (Digits.padRight 9 digits), rest.dropWhile Digits.isDigit)
  | text => some (0, text)

/-- Read one item. -/
def Item.read (item : Item) (fields : Fields) (text : List Char) :
    Option (Fields × List Char) :=
  match item with
  | .blanks => some (fields, text.dropWhile CharacterClass.isBlank)
  | .literal character =>
      match text with
      | c :: rest => if c = character then some (fields, rest) else none
      | [] => none
  | .fraction => (readFraction text).map fun (nano, rest) => ({ fields with nano }, rest)
  | .number field => do
      let text := text.dropWhile CharacterClass.isBlank
      let (n, rest) ←
        match field with
        | .year => readYear text
        | other => (readNumber other.places text).map fun (n, rest) => ((n : Int), rest)
      let fields ← field.store n fields
      return (fields, rest)

/-- Read the items of a pattern in turn. -/
def Pattern.read : Pattern → Fields → List Char → Option (Fields × List Char)
  | [], fields, text => some (fields, text)
  | item :: pattern, fields, text => do
      let (fields, rest) ← item.read fields text
      Pattern.read pattern fields rest

/-- Read a whole text. -/
def Pattern.readAll (pattern : Pattern) (text : List Char) : Option Fields :=
  match pattern.read {} text with
  | some (fields, []) => some fields
  | _ => none

/-- The date the fields name. -/
def Fields.date? (fields : Fields) : Option Date :=
  Date.ofParts? fields.year fields.month fields.day

/-- The time the fields name; second 60 is a leap second behind second 59. -/
def Fields.time? (fields : Fields) : Option Time :=
  if fields.second = 60 then
    Time.ofParts? fields.hour fields.minute 59 (nanosPerSecond + fields.nano)
  else Time.ofParts? fields.hour fields.minute fields.second fields.nano

/-- The timestamp the fields name. -/
def Fields.timestamp? (fields : Fields) : Option Timestamp := do
  let date ← fields.date?
  let time ← fields.time?
  return ⟨date, time⟩

/-- Year, month and day between hyphens. -/
def datePattern : Pattern :=
  [.number .year, .literal '-', .number .month, .literal '-', .number .day]

/-- Hour, minute and second between colons, and a fraction. -/
def timePattern : Pattern :=
  [.number .hour, .literal ':', .number .minute, .literal ':', .number .second, .fraction]

/-- Read a date, blanks at the ends aside. -/
def readDate? (text : String) : Option Date := do
  let fields ← datePattern.readAll (CharacterClass.trimBlanks text.toList)
  fields.date?

/-- Read a time, blanks at the ends aside. -/
def readTime? (text : String) : Option Time := do
  let fields ← timePattern.readAll (CharacterClass.trimBlanks text.toList)
  fields.time?

/-- Read a date and a time with a separator between them. -/
def readParts? (separator : Item) (text : List Char) : Option Timestamp := do
  let fields ← Pattern.readAll (datePattern ++ separator :: timePattern) text
  fields.timestamp?

/-- Read a timestamp, blanks at the ends aside; any blanks or a `T` stand between date
and time. -/
def readTimestamp? (text : String) : Option Timestamp :=
  let text := CharacterClass.trimBlanks text.toList
  (readParts? .blanks text).orElse fun _ => readParts? (.literal 'T') text

/-- A pattern that allows blanks in front of its fixed characters. -/
def Pattern.spaced : Pattern → Pattern
  | [] => []
  | .literal character :: pattern => .blanks :: .literal character :: spaced pattern
  | item :: pattern => item :: spaced pattern

/-- Read a date as interchange formats write it, blanks between its parts allowed. -/
def interchangeDate? (text : String) : Option Date := do
  let fields ← Pattern.readAll (Pattern.spaced datePattern ++ [.blanks]) text.toList
  fields.date?

/-- Read a time as interchange formats write it; the seconds may be left out. -/
def interchangeTime? (text : String) : Option Time := do
  let whole := Pattern.spaced timePattern ++ [.blanks]
  let short := Pattern.spaced (timePattern.take 3) ++ [.blanks]
  let fields ←
    (Pattern.readAll whole text.toList).orElse fun _ => Pattern.readAll short text.toList
  fields.time?

/-- Read a timestamp as interchange formats write it, with a `T` between its parts. -/
def interchangeTimestamp? (text : String) : Option Timestamp := do
  let pattern := Pattern.spaced (datePattern ++ .literal 'T' :: timePattern) ++ [.blanks]
  let fields ← Pattern.readAll pattern text.toList
  fields.timestamp?

end ColumnStore.Calendar
