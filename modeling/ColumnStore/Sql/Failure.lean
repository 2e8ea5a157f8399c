import ColumnStore.Native.Cell
import ColumnStore.Sql.DeclaredType
import ColumnStore.Value

/-!
# Failures of the engine

Every reason for which the engine refuses a statement, a value or a call. The text of a
failure starts with the five characters of its SQL state, where it has one.
-/

set_option autoImplicit false

namespace ColumnStore

/-- Why the engine refused something. -/
inductive Failure
  /-- The text of a statement does not go on in any allowed way. -/
  | unexpected (near : String)
  | unterminatedText
  | unterminatedName
  | numberTooLarge (written : String)
  | unknownType (name : String)
  | invalidDecimalType (digits scale : Nat)
  /-- A decimal needs more digits than the engine's integers hold. -/
  | precisionUnavailable (digits : Nat)
  | conversion (value : Value) (target : DeclaredType)
  | decimalConversion (value : Value)
  | valueOutOfRange (value : Value) (target : DeclaredType)
  | notFinite (value : Value)
  | exceedsDecimal (number : Decimal) (digits scale : Nat)
  | textTooLong (limit : Nat)
  | malformedDate (written : String)
  | malformedTime (written : String)
  | malformedTimestamp (written : String)
  | unknownColumn (column table : String)
  | unknownTable (table : String)
  | tableExists (table : String)
  | columnExists (column : String)
  | nothingToDrop (table : String)
  /-- An inserted row has another number of values than columns are named. -/
  | valueCount
  /-- A statement with placeholders was run without a value for one, counted from one. -/
  | unboundPlaceholder (number : Nat)
  /-- A text to hand over contains a NUL at this octet. -/
  | interiorNul (position : Nat)
  | impossibleDate (cell : DateCell)
  | impossibleTime (cell : TimeCell)
  | impossibleTimestamp
  /-- A prepared statement was executed before this parameter was bound, counted from
  zero. -/
  | unboundParameter (index : Nat)
  | noSuchParameter (index count : Nat)
  | noData
  | noSuchColumn (index count : Nat)
  /-- A call left out an argument it needs. -/
  | missingArgument (entry : EntryPoint) (argument : String)
  | missingQuery (entry : EntryPoint)
  | remoteDatabase (url : String)
  | negativeOption (option : String) (given : Int)
  | remoteOptions
  /-- A column type cannot be named in the engine's numbering. -/
  | untaggable
  deriving DecidableEq, Repr

namespace Failure

/-- The text of a failure. -/
def message : Failure → String
  | unexpected near => s!"42000!syntax error, unexpected {near}"
  | unterminatedText => "42000!unterminated string literal"
  | unterminatedName => "42000!unterminated quoted identifier"
  | numberTooLarge written => s!"22003!number '{written}' is out of range"
  | unknownType name => s!"42000!type ({name}) unknown"
  | invalidDecimalType digits scale =>
      s!"42000!DECIMAL({digits},{scale}) is not a valid decimal type"
  | precisionUnavailable digits =>
      s!"42000!DECIMAL({digits}) exceeds the maximum precision of 18"
  | conversion value target =>
      s!"22018!conversion of '{value.text}' to type {target.name} failed"
  | decimalConversion value => s!"22018!conversion of '{value.text}' to decimal failed"
  | valueOutOfRange value target =>
      s!"22003!value '{value.text}' is out of range for type {target.name}"
  | notFinite value => s!"22003!value '{value.text}' is not finite"
  | exceedsDecimal number digits scale =>
      s!"22003!value '{number.text}' exceeds DECIMAL({digits},{scale})"
  | textTooLong limit => s!"22001!value too long for type (var)char({limit})"
  | malformedDate written => s!"22007!date '{written}' has an invalid format"
  | malformedTime written => s!"22007!time '{written}' has an invalid format"
  | malformedTimestamp written => s!"22007!timestamp '{written}' has an invalid format"
  | unknownColumn column table =>
      s!"42S22!identifier '{column}' unknown in table '{table}'"
  | unknownTable table => s!"42S02!no such table '{table}'"
  | tableExists table => s!"42S01!CREATE TABLE: name '{table}' already in use"
  | columnExists column =>
      s!"42000!CREATE TABLE: a column named '{column}' already exists"
  | nothingToDrop table => s!"42S02!DROP TABLE: no such table '{table}'"
  | valueCount => "21S01!INSERT INTO: number of values does not match number of columns"
  | unboundPlaceholder number => s!"07001!parameter {number} is not bound"
  | interiorNul position => s!"nul byte found in provided data at position: {position}"
  | impossibleDate cell =>
      s!"22007!date {cell.year.val}-{cell.month.toNat}-{cell.day.toNat} is invalid"
  | impossibleTime cell =>
      s!"22007!time {cell.hours.toNat}:{cell.minutes.toNat}:{cell.seconds.toNat}" ++
        s!".{cell.millis.toNat} is invalid"
  | impossibleTimestamp => "22007!invalid timestamp"
  | unboundParameter index => s!"monetdbe_execute: parameter {index} is not bound"
  | noSuchParameter index count =>
      s!"monetdbe_bind: parameter number {index} is out of range, the statement has {count}"
  | noData => "monetdbe_bind: no data for the parameter"
  | noSuchColumn index count =>
      s!"monetdbe_result_fetch: column index {index} is out of range, " ++
        s!"the result has {count} columns"
  | missingArgument entry argument =>
      s!"{entry.symbol}: parameter '{argument}' must not be NULL"
  | missingQuery entry => s!"{entry.symbol}: query must not be NULL"
  | remoteDatabase url => s!"monetdbe_open: remote database '{url}' is not supported"
  | negativeOption option given =>
      s!"monetdbe_open: {option} must not be negative, got {given}"
  | remoteOptions => "monetdbe_open: remote and mapi server options are not supported"
  | untaggable => "the loaded monetdbe library has no 128-bit integer support"

end Failure

end ColumnStore
