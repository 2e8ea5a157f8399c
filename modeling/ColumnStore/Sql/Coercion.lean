import ColumnStore.Calendar.Reading
import ColumnStore.Sql.Failure
import ColumnStore.Text.CharacterClass
import ColumnStore.Text.Utf8

/-!
# Coercion to a declared type

Before a value is stored or compared it is brought into the form its column stores:
integers of the column's width, decimals of the column's scale, texts within the
column's length, dates and times from their written form. NULL goes into every column.
Integers take a decimal only if it stands for an integer, and decimals cut the places
behind their scale.
-/

set_option autoImplicit false

namespace ColumnStore

namespace Coercion

/-- Read a date, or say what is wrong with it. -/
def readDate (written : String) : Except Failure Date :=
  match Calendar.readDate? written with
  | some date => .ok date
  | none => .error (.malformedDate written)

/-- Read a time, or say what is wrong with it. -/
def readTime (written : String) : Except Failure Time :=
  match Calendar.readTime? written with
  | some time => .ok time
  | none => .error (.malformedTime written)

/-- Read a timestamp, or say what is wrong with it; blanks at the ends are not quoted
back. -/
def readTimestamp (written : String) : Except Failure Timestamp :=
  match Calendar.readTimestamp? written with
  | some timestamp => .ok timestamp
  | none =>
      .error (.malformedTimestamp
        (String.ofList (CharacterClass.trimBlanks written.toList)))

/-- Read an octet as a number to base sixteen, which may have a plus sign in front. -/
def readOctet? (written : List Char) : Option UInt8 := do
  let digits :=
    match written with
    | '+' :: digits => digits
    | digits => digits
  let n ← Hex.toNat? digits
  if n < 256 then return UInt8.ofNat n else none

/-- The octets that a text spells. The text is read two of its own octets at a time, which may
end inside a character. -/
def readOctets? (text : List Char) : Option Bytes :=
  let size := Utf8.size text
  if size % 2 ≠ 0 then none
  else
    (List.range (size / 2)).mapM fun pair => do
      let written ← Utf8.slice? (2 * pair) (2 * pair + 2) text
      readOctet? written

/-- The integer a value holds; a decimal holds one when it stands for one. -/
def toInteger? : Value → Option Int
  | .decimal number => number.toInteger?.map (·.val)
  | value => value.toInt?

/-- The floating point number a value is nearest to. -/
def toDouble? : Value → Option Binary64
  | .decimal number => some (Binary.ofDecimal number)
  | value => value.toDouble?

/-- The exact decimal of a value. -/
def toDecimal (value : Value) : Except Failure Decimal :=
  match value with
  | .decimal number => .ok number
  | .float number => (number.toDecimal?).elim (.error (.notFinite value)) .ok
  | .double number => (number.toDecimal?).elim (.error (.notFinite value)) .ok
  | .str text => (Decimal.parse? text).elim (.error (.decimalConversion value)) .ok
  | _ =>
      match value.toInt? with
      | some n => .ok (Decimal.ofInt n)
      | none => .error (.decimalConversion value)

/-- A value as a decimal of so many digits, cut to the scale. -/
def coerceDecimal (digits scale : Nat) (value : Value) : Except Failure Value := do
  let number ← toDecimal value
  match number.toUnscaled? scale with
  | some unscaled =>
      if unscaled.val.natAbs < Nat.pow 10 digits then
        return .decimal (Decimal.fromUnscaled unscaled.val scale)
      else .error (.exceedsDecimal number digits scale)
  | none => .error (.exceedsDecimal number digits scale)

/-- A value as a truth value: zero, one, or one of the words. -/
def coerceBoolean (value : Value) : Except Failure Value :=
  match value with
  | .bool truth => .ok (.bool truth)
  | .str text =>
      if CharacterClass.sameIgnoringCase text "true" then .ok (.bool true)
      else if CharacterClass.sameIgnoringCase text "false" then .ok (.bool false)
      else .error (.conversion value .boolean)
  | _ =>
      match value.toInt? with
      | some 0 => .ok (.bool false)
      | some 1 => .ok (.bool true)
      | _ => .error (.conversion value .boolean)

/-- A value as an integer of a kind. -/
def coerceInteger (kind : IntegerKind) (value : Value) : Except Failure Value :=
  match toInteger? value with
  | none => .error (.conversion value (.integer kind))
  | some wide =>
      match kind.ofInt? wide with
      | some number => .ok (.integer kind number)
      | none => .error (.valueOutOfRange value (.integer kind))

/-- A value as a text of a limited length; only texts are measured. -/
def coerceText (limit : Nat) (value : Value) : Except Failure Value :=
  match value with
  | .str text =>
      if 0 < limit ∧ limit < text.length then .error (.textTooLong limit) else .ok (.str text)
  | value => .ok (.str value.text)

/-- A value as a blob. -/
def coerceBlob (value : Value) : Except Failure Value :=
  match value with
  | .blob bytes => .ok (.blob bytes)
  | .str text =>
      match readOctets? text.toList with
      | some bytes => .ok (.blob bytes)
      | none => .error (.conversion value .blob)
  | _ => .error (.conversion value .blob)

/-- A value as a date. -/
def coerceDate (value : Value) : Except Failure Value :=
  match value with
  | .date day => .ok (.date day)
  | .timestamp instant => .ok (.date instant.date)
  | .str text => Value.date <$> readDate text
  | _ => .error (.conversion value .date)

/-- A value as a time of day. -/
def coerceTime (value : Value) : Except Failure Value :=
  match value with
  | .time instant => .ok (.time instant)
  | .timestamp instant => .ok (.time instant.time)
  | .str text => Value.time <$> readTime text
  | _ => .error (.conversion value .time)

/-- A value as a timestamp; a date starts at midnight. -/
def coerceTimestamp (value : Value) : Except Failure Value :=
  match value with
  | .timestamp instant => .ok (.timestamp instant)
  | .date day => .ok (.timestamp ⟨day, Time.midnight⟩)
  | .str text => Value.timestamp <$> readTimestamp text
  | _ => .error (.conversion value .timestamp)

end Coercion

/-- Bring a value into the form that columns of the type store. -/
def DeclaredType.coerce (type : DeclaredType) (value : Value) : Except Failure Value :=
  if value.isNull then .ok .null
  else
    match type with
    | .decimal digits scale _ => Coercion.coerceDecimal digits scale value
    | .boolean => Coercion.coerceBoolean value
    | .integer kind => Coercion.coerceInteger kind value
    | .real =>
        match Coercion.toDouble? value with
        | some number => .ok (.float (number.convert .single))
        | none => .error (.conversion value .real)
    | .double =>
        match Coercion.toDouble? value with
        | some number => .ok (.double number)
        | none => .error (.conversion value .double)
    | .varchar limit => Coercion.coerceText limit value
    | .blob => Coercion.coerceBlob value
    | .date => Coercion.coerceDate value
    | .time => Coercion.coerceTime value
    | .timestamp => Coercion.coerceTimestamp value

end ColumnStore
