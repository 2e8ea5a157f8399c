import ColumnStore.Calendar.Reading
import ColumnStore.Json
import ColumnStore.Value

/-!
# Values as JSON

A value is written as an object whose one member is named for the kind of the value;
NULL is the bare name. Dates and times are objects with an `inner` text, blobs arrays
of octets, decimals texts. Floating point numbers always show a point or an exponent;
what is no number or infinite is written as `null` and does not read back.
-/

set_option autoImplicit false

namespace ColumnStore

namespace Json

/-- An integer in a range. -/
def integerIn? (least greatest : Int) : Json → Option Int
  | .number written =>
      written.word?.filter fun n => decide (least ≤ n ∧ n ≤ greatest)
  | _ => none

/-- A truth value. -/
def bool? : Json → Option Bool
  | .bool truth => some truth
  | _ => none

/-- A text. -/
def string? : Json → Option String
  | .string content => content
  | _ => none

/-- The one field `inner` of a record; other fields are ignored. An array of one item
is taken as the field as well. -/
def inner? : Json → Option Json
  | .array [item] => some item
  | .object members =>
      if members.any (fun member => member.1.isNone) then none
      else
        match members.filter (fun member => member.1 = some "inner") with
        | [member] => some member.2
        | _ => none
  | _ => none

end Json

namespace IntegerKind

/-- The name of the kind as a member of a JSON object. -/
def memberName : IntegerKind → String
  | int8 => "Int8"
  | int16 => "Int16"
  | int32 => "Int32"
  | int64 => "Int64"
  | int128 => "Int128"
  | size => "Size"

end IntegerKind

namespace Value

/-- Which leading exponents of 32-bit numbers are written positionally. -/
def singleRange : Binary.PositionalRange := ⟨-6, 12⟩

/-- Which leading exponents of 64-bit numbers are written positionally. -/
def doubleRange : Binary.PositionalRange := ⟨-5, 15⟩

/-- A floating point number, `null` when it is not finite. -/
def binaryJson {format : BinaryFormat} (range : Binary.PositionalRange)
    (number : Binary format) : String :=
  if number.isFinite then number.textWithPoint range else "null"

/-- An object with one member. -/
def member (name content : String) : String :=
  "\x7b" ++ Json.quote name ++ ":" ++ content ++ "\x7d"

/-- An object whose one member is an object with the field `inner`. -/
def innerMember (name content : String) : String :=
  member name (member "inner" (Json.quote content))

/-- The JSON text of a value. -/
def json : Value → String
  | null => Json.quote "Null"
  | bool truth => member "Bool" (if truth then "true" else "false")
  | integer kind number => member kind.memberName (String.ofList (Digits.ofInt number.val))
  | float number => member "Float" (binaryJson singleRange number)
  | double number => member "Double" (binaryJson doubleRange number)
  | str text => member "Str" (Json.quote text)
  | blob bytes =>
      member "Blob" ("[" ++ ",".intercalate (bytes.map fun octet =>
        String.ofList (Digits.ofNat octet.toNat)) ++ "]")
  | date day => innerMember "Date" day.interchangeText
  | time instant => innerMember "Time" instant.interchangeText
  | timestamp instant => innerMember "Timestamp" (instant.interchangeText "T")
  | decimal number => member "Decimal" (Json.quote number.text)

/-- Read an integer of a kind; the 128-bit kind is not limited to a word. -/
def integerOfJson? (kind : IntegerKind) (payload : Json) : Option Value :=
  match kind, payload with
  | .int128, .number written =>
      written.integer?.bind fun n => (IntegerKind.int128.ofInt? n).map (integer .int128)
  | kind, .number written =>
      written.word?.bind fun n => (kind.ofInt? n).map (integer kind)
  | _, _ => none

/-- Read a decimal from its text or from a number. -/
def decimalOfJson? : Json → Option Value
  | .string content => do
      let text ← content
      let number ← Decimal.parse? text
      return decimal number
  | .number written =>
      match written.word? with
      | some n => some (decimal (Decimal.ofInt n))
      | none => do
          let number ← written.toBinary? .double
          let exact ← number.toDecimal?
          return decimal exact
  | _ => none

/-- Read a list of octets. -/
def blobOfJson? : Json → Option Value
  | .array items => do
      let octets ← items.mapM (Json.integerIn? 0 255)
      return blob (octets.map fun n => UInt8.ofNat n.toNat)
  | _ => none

/-- Read a value of the kind a member names. -/
def ofMember? (name : String) (payload : Json) : Option Value :=
  match name with
  | "Null" =>
      match payload with
      | .null => some null
      | _ => none
  | "Bool" => payload.bool?.map bool
  | "Int8" => integerOfJson? .int8 payload
  | "Int16" => integerOfJson? .int16 payload
  | "Int32" => integerOfJson? .int32 payload
  | "Int64" => integerOfJson? .int64 payload
  | "Int128" => integerOfJson? .int128 payload
  | "Size" => integerOfJson? .size payload
  | "Float" =>
      match payload with
      | .number written => (written.toBinary? .single).map float
      | _ => none
  | "Double" =>
      match payload with
      | .number written => (written.toBinary? .double).map double
      | _ => none
  | "Str" => payload.string?.map str
  | "Blob" => blobOfJson? payload
  | "Date" => do
      let text ← (← payload.inner?).string?
      let day ← Calendar.interchangeDate? text
      return date day
  | "Time" => do
      let text ← (← payload.inner?).string?
      let instant ← Calendar.interchangeTime? text
      return time instant
  | "Timestamp" => do
      let text ← (← payload.inner?).string?
      let instant ← Calendar.interchangeTimestamp? text
      return timestamp instant
  | "Decimal" => decimalOfJson? payload
  | _ => none

/-- Read a value from JSON. -/
def ofJson? : Json → Option Value
  | .string (some "Null") => some null
  | .object [(some name, payload)] => ofMember? name payload
  | _ => none

/-- Read a value from a JSON text. -/
def parseJson? (text : String) : Option Value := do
  let json ← Json.parse? text
  ofJson? json

end Value

end ColumnStore
