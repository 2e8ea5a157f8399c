import ColumnStore.ColumnType

/-!
# Declared SQL types

The types that table columns are declared with. A declared type fixes how cells are
stored, and the digits and the scale that descriptions report for it. A decimal type of
`digits` digits, `scale` of them behind the point, is stored as the narrowest integer
that holds so many digits.
-/

set_option autoImplicit false

namespace ColumnStore

/-- The declared type of a table column or a statement parameter. -/
inductive DeclaredType
  | boolean
  | integer (kind : IntegerKind)
  | real
  | double
  /-- A text; a length of zero is no limit. -/
  | varchar (length : Nat)
  | blob
  | date
  | time
  | timestamp
  | decimal (digits scale : Nat) (valid : 0 < digits ∧ scale ≤ digits ∧ digits ≤ 38)
  deriving DecidableEq, Repr

namespace DeclaredType

/-- The integers that hold every decimal of so many digits. -/
def decimalStorage (digits : Nat) : IntegerKind :=
  if digits ≤ 2 then .int8
  else if digits ≤ 4 then .int16
  else if digits ≤ 9 then .int32
  else if digits ≤ 18 then .int64
  else .int128

/-- The lower case name that descriptions report. -/
def name : DeclaredType → String
  | boolean => "boolean"
  | integer .int8 => "tinyint"
  | integer .int16 => "smallint"
  | integer .int32 => "int"
  | integer .int64 => "bigint"
  | integer .int128 => "hugeint"
  | integer .size => "size"
  | real => "real"
  | double => "double"
  | varchar _ => "varchar"
  | blob => "blob"
  | date => "date"
  | time => "time"
  | timestamp => "timestamp"
  | decimal .. => "decimal"

/-- How cells are stored. -/
def storage : DeclaredType → ColumnType
  | boolean => .bool
  | integer kind => .integer kind
  | real => .float
  | double => .double
  | varchar _ => .str
  | blob => .blob
  | date => .date
  | time => .time
  | timestamp => .timestamp
  | decimal digits .. => .integer (decimalStorage digits)

/-- The digits that descriptions report: bits of binary numbers, places of decimals,
the length limit of texts. -/
def digits : DeclaredType → Nat
  | boolean => 1
  | integer kind => 8 * kind.width
  | real => 24
  | double => 53
  | varchar length => length
  | blob => 0
  | date => 0
  | time => 1
  | timestamp => 7
  | decimal digits .. => digits

/-- Places behind the point; only decimals have any. -/
def scale : DeclaredType → Nat
  | decimal _ scale _ => scale
  | _ => 0

/-- Whether the type is a decimal. -/
def isDecimal : DeclaredType → Bool
  | decimal .. => true
  | _ => false

end DeclaredType

end ColumnStore
