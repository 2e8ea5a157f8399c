import ColumnStore.Number.Binary
import ColumnStore.Number.IntegerKind

/-!
# Column types

The types a column or a statement parameter can have. Nine of them store cells of a
fixed width, which results expose as they lie in the engine's buffers; five store
cells that are copied out one by one. A type has a code, the name of its native
enumerator, the SQL name of columns declared without one, and the name the engine's
storage kernel uses for it.
-/

set_option autoImplicit false

namespace ColumnStore

/-- Types with cells of a fixed width. -/
inductive FixedKind
  | bool
  | integer (kind : IntegerKind)
  | float
  | double
  deriving DecidableEq, Repr

/-- Types with cells that are copied out. -/
inductive BoxedKind
  | str | blob | date | time | timestamp
  deriving DecidableEq, Repr

/-- The type of a column or parameter. -/
inductive ColumnType
  | fixed (kind : FixedKind)
  | boxed (kind : BoxedKind)
  | unknown
  deriving DecidableEq, Repr

namespace ColumnType

@[match_pattern] abbrev bool : ColumnType := .fixed .bool
@[match_pattern] abbrev integer (kind : IntegerKind) : ColumnType := .fixed (.integer kind)
@[match_pattern] abbrev float : ColumnType := .fixed .float
@[match_pattern] abbrev double : ColumnType := .fixed .double
@[match_pattern] abbrev str : ColumnType := .boxed .str
@[match_pattern] abbrev blob : ColumnType := .boxed .blob
@[match_pattern] abbrev date : ColumnType := .boxed .date
@[match_pattern] abbrev time : ColumnType := .boxed .time
@[match_pattern] abbrev timestamp : ColumnType := .boxed .timestamp

/-- Every type, in the order of the codes. -/
def all : List ColumnType :=
  [bool, integer .int8, integer .int16, integer .int32, integer .int64, integer .int128,
    integer .size, float, double, str, blob, date, time, timestamp, unknown]

/-- The code of a type. -/
def code : ColumnType → Int32
  | bool => 0
  | integer .int8 => 1
  | integer .int16 => 2
  | integer .int32 => 3
  | integer .int64 => 4
  | integer .int128 => 5
  | integer .size => 6
  | float => 7
  | double => 8
  | str => 9
  | blob => 10
  | date => 11
  | time => 12
  | timestamp => 13
  | unknown => 14

/-- The name of the native enumerator. -/
def name : ColumnType → String
  | bool => "monetdbe_bool"
  | integer .int8 => "monetdbe_int8_t"
  | integer .int16 => "monetdbe_int16_t"
  | integer .int32 => "monetdbe_int32_t"
  | integer .int64 => "monetdbe_int64_t"
  | integer .int128 => "monetdbe_int128_t"
  | integer .size => "monetdbe_size_t"
  | float => "monetdbe_float"
  | double => "monetdbe_double"
  | str => "monetdbe_str"
  | blob => "monetdbe_blob"
  | date => "monetdbe_date"
  | time => "monetdbe_time"
  | timestamp => "monetdbe_timestamp"
  | unknown => "monetdbe_type_unknown"

/-- The SQL name of columns of this type that declare no other. -/
def sqlName : ColumnType → String
  | bool => "BOOLEAN"
  | integer .int8 => "TINYINT"
  | integer .int16 => "SMALLINT"
  | integer .int32 => "INTEGER"
  | integer .int64 => "BIGINT"
  | integer .int128 => "HUGEINT"
  | integer .size => "BIGINT"
  | float => "REAL"
  | double => "DOUBLE"
  | str => "VARCHAR"
  | blob => "BLOB"
  | date => "DATE"
  | time => "TIME"
  | timestamp => "TIMESTAMP"
  | unknown => "NULL"

/-- The name the storage kernel uses, as statement descriptions report it. -/
def kernelName : ColumnType → String
  | bool => "bit"
  | integer .int8 => "bte"
  | integer .int16 => "sht"
  | integer .int32 => "int"
  | integer .int64 => "lng"
  | integer .int128 => "hge"
  | integer .size => "size"
  | float => "flt"
  | double => "dbl"
  | str => "str"
  | blob => "blob"
  | date => "date"
  | time => "daytime"
  | timestamp => "timestamp"
  | unknown => "unknown"

/-- The short name used where a type is shown inside a description of a value. -/
def label : ColumnType → String
  | bool => "Bool"
  | integer .int8 => "Int8"
  | integer .int16 => "Int16"
  | integer .int32 => "Int32"
  | integer .int64 => "Int64"
  | integer .int128 => "Int128"
  | integer .size => "Size"
  | float => "Float"
  | double => "Double"
  | str => "Str"
  | blob => "Blob"
  | date => "Date"
  | time => "Time"
  | timestamp => "Timestamp"
  | unknown => "Unknown"

/-- The type with a code. -/
def ofCode? (code : Int32) : Option ColumnType :=
  if 0 ≤ code then all[code.toNatClampNeg]? else none

/-- The type with the name of a native enumerator. -/
def ofName? (name : String) : Option ColumnType :=
  all.find? fun type => type.name = name

/-- The type with a storage kernel name. -/
def ofKernelName? (name : String) : Option ColumnType :=
  all.find? fun type => type.kernelName = name

end ColumnType

/-- Octets of a cell. -/
def FixedKind.width : FixedKind → Nat
  | .bool => 1
  | .integer kind => kind.width
  | .float => 4
  | .double => 8

namespace ColumnType

/-- Octets of a cell of a type with a fixed width. -/
def width : ColumnType → Option Nat
  | .fixed kind => some kind.width
  | _ => none

/-- Whether cells have a fixed width. -/
def isFixed (type : ColumnType) : Bool :=
  type.width.isSome

/-- Whether the type is a width of integers; booleans do not count. -/
def isInteger : ColumnType → Bool
  | .integer _ => true
  | _ => false

/-- Whether the type is a date, a time, or both. -/
def isTemporal : ColumnType → Bool
  | .date | .time | .timestamp => true
  | _ => false

/-- The codes number the list of all types. -/
theorem getElem?_all_code (type : ColumnType) : all[type.code.toNatClampNeg]? = some type := by
  rcases type with (_ | kind | _ | _) | kind | _ <;> first | rfl | (cases kind <;> rfl)

theorem ofCode?_code (type : ColumnType) : ofCode? type.code = some type := by
  have nonnegative : 0 ≤ type.code := by
    rcases type with (_ | kind | _ | _) | kind | _ <;>
      first | decide | (cases kind <;> decide)
  simp [ofCode?, nonnegative, getElem?_all_code]

theorem ofKernelName?_kernelName (type : ColumnType) :
    ofKernelName? type.kernelName = some type := by
  rcases type with (_ | kind | _ | _) | kind | _ <;>
    first | rfl | (cases kind <;> rfl)

end ColumnType

end ColumnStore
