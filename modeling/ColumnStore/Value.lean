import ColumnStore.Calendar.Timestamp
import ColumnStore.ColumnType
import ColumnStore.Number.Binary.Shortest
import ColumnStore.Number.Decimal.Text

/-!
# Values

A single cell or parameter value as callers see it. Two values are the `same` when
they have the same kind and stand for the same thing: numbers with a fraction are
compared as numbers, so decimals of different scales can be the same, and what is no
number is not even the same as itself.
-/

set_option autoImplicit false

namespace ColumnStore

/-- A cell or parameter value. -/
inductive Value
  | null
  | bool (truth : Bool)
  | integer (kind : IntegerKind) (number : kind.Number)
  | float (number : Binary32)
  | double (number : Binary64)
  | str (text : String)
  | blob (bytes : Bytes)
  | date (day : Date)
  | time (instant : Time)
  | timestamp (instant : Timestamp)
  /-- An exact number, stored as an integer at the scale of its column. -/
  | decimal (number : Decimal)
  deriving DecidableEq, Repr

namespace Value

/-- The column type of a value; NULL and decimals take theirs from the column. -/
def type? : Value → Option ColumnType
  | null => none
  | bool _ => some .bool
  | integer kind _ => some (.integer kind)
  | float _ => some .float
  | double _ => some .double
  | str _ => some .str
  | blob _ => some .blob
  | date _ => some .date
  | time _ => some .time
  | timestamp _ => some .timestamp
  | decimal _ => none

/-- Whether a value is NULL. -/
def isNull : Value → Bool
  | null => true
  | _ => false

/-- The integer a value holds; a truth value counts as zero or one. -/
def toInt? : Value → Option Int
  | bool truth => some (if truth then 1 else 0)
  | integer _ number => some number.val
  | _ => none

/-- The floating point number nearest to a numeric value; decimals have none here. -/
def toDouble? : Value → Option Binary64
  | float number => some (number.convert .double)
  | double number => some number
  | value => value.toInt?.map Binary.ofInt

/-- The text a text value holds. -/
def toText? : Value → Option String
  | str text => some text
  | _ => none

/-- The octets of a blob, spelled behind `0x`. -/
def blobText (bytes : Bytes) : String :=
  "0x" ++ Hex.encode bytes

/-- How a value is written. -/
def text : Value → String
  | null => "NULL"
  | bool truth => if truth then "true" else "false"
  | integer _ number => String.ofList (Digits.ofInt number.val)
  | float number => number.text
  | double number => number.text
  | str text => text
  | blob bytes => blobText bytes
  | date day => day.text
  | time instant => instant.text
  | timestamp instant => instant.text
  | decimal number => number.text

/-- Whether two values have the same kind and stand for the same thing. -/
def same : Value → Value → Bool
  | float left, float right => left.same right
  | double left, double right => left.same right
  | decimal left, decimal right => left.sameNumber right
  | left, right => left = right

/-- The order of two byte strings: octet by octet, the shorter first. -/
def compareBytes : Bytes → Bytes → Ordering
  | [], [] => .eq
  | [], _ :: _ => .lt
  | _ :: _, [] => .gt
  | left :: lefts, right :: rights =>
      (Ord.compare left.toNat right.toNat).then (compareBytes lefts rights)

/-- The order of two values of one ordered kind. -/
def order? : Value → Value → Option Ordering
  | blob left, blob right => some (compareBytes left right)
  | date left, date right => some (left.compare right)
  | time left, time right => some (left.compare right)
  | timestamp left, timestamp right => some (left.compare right)
  | _, _ => none

end Value

end ColumnStore
