import ColumnStore.Native.Descriptor
import ColumnStore.Value

/-!
# Result columns

A column of a result as callers see it. A fixed-width column is a view of the engine's
cells, in which every NULL has become the zero of the type; only a column with a decimal
scale remembers which rows those were, in a mask of flags. A boxed column has a value of
its own for every row, or none.
-/

set_option autoImplicit false

namespace ColumnStore

/-- What a row of a boxed column holds when it is not NULL. -/
abbrev BoxedKind.Content : BoxedKind → Type
  | .str => String
  | .blob => Bytes
  | .date => Date
  | .time => Time
  | .timestamp => Timestamp

/-- The value of a content. -/
def BoxedKind.value : (kind : BoxedKind) → kind.Content → Value
  | .str, text => .str text
  | .blob, bytes => .blob bytes
  | .date, day => .date day
  | .time, instant => .time instant
  | .timestamp, instant => .timestamp instant

/-- The value of a cell; every truth cell but zero is true. -/
def FixedKind.value : (kind : FixedKind) → kind.Cell → Value
  | .bool, cell => .bool (cell.val ≠ 0)
  | .integer kind, cell => .integer kind cell
  | .float, cell => .float cell
  | .double, cell => .double cell

/-- A view of fixed-width cells. -/
structure FixedColumn where
  kind : FixedKind
  cells : List kind.Cell
  precision : Nat
  scale : Nat
  /-- Which rows were NULL, if the column keeps track of them. -/
  nulls : Option (List Bool)

namespace FixedColumn

/-- Whether integers of the column are decimals at its scale. -/
def isDecimal (column : FixedColumn) : Bool :=
  column.scale ≠ 0

/-- Whether the mask flags a row; rows behind the end are not flagged. -/
def isNull (column : FixedColumn) (row : Nat) : Bool :=
  match column.nulls with
  | some flags => flags[row]?.getD false
  | none => false

/-- The cells as octets. -/
def bytes (column : FixedColumn) : Bytes :=
  column.cells.flatMap column.kind.cellBytes

/-- Keep the first rows of the view and of its mask. -/
def truncate (column : FixedColumn) (rows : Nat) : FixedColumn :=
  { column with cells := column.cells.take rows, nulls := column.nulls.map (·.take rows) }

/-- The value of a cell: masked rows are NULL, integers of a decimal column decimals. -/
def valueOf (column : FixedColumn) (masked : Bool) (cell : column.kind.Cell) : Value :=
  if masked then .null
  else
    let plain := column.kind.value cell
    if column.isDecimal then
      match plain.toInt? with
      | some unscaled => .decimal (Decimal.fromUnscaled unscaled column.scale)
      | none => plain
    else plain

/-- The exact number a cell stands for; masked rows and patterns that are no finite
number have none. -/
def decimalOf (column : FixedColumn) (masked : Bool) (cell : column.kind.Cell) :
    Option Decimal :=
  if masked then none
  else
    let plain := column.kind.value cell
    match plain.toInt? with
    | some unscaled => some (Decimal.fromUnscaled unscaled column.scale)
    | none => plain.toDouble?.bind Binary.toDecimal?

end FixedColumn

/-- The rows of a column that were copied out. -/
structure BoxedColumn where
  kind : BoxedKind
  rows : List (Option kind.Content)

namespace BoxedColumn

/-- Whether a row holds NULL; rows behind the end do not. -/
def isNull (column : BoxedColumn) (row : Nat) : Bool :=
  match column.rows[row]? with
  | some content => content.isNone
  | none => false

/-- Keep the first rows. -/
def truncate (column : BoxedColumn) (rows : Nat) : BoxedColumn :=
  { column with rows := column.rows.take rows }

/-- The value of a row's content. -/
def valueOf (column : BoxedColumn) (content : Option column.kind.Content) : Value :=
  match content with
  | some content => column.kind.value content
  | none => .null

end BoxedColumn

/-- The rows of a column, in one of the two forms. -/
inductive ColumnData
  | fixed (column : FixedColumn)
  | boxed (column : BoxedColumn)

/-- A named column of a result. -/
structure Column where
  name : String
  data : ColumnData

namespace ColumnData

/-- The type of the rows. -/
def type : ColumnData → ColumnType
  | fixed column => .fixed column.kind
  | boxed column => .boxed column.kind

/-- How many rows are visible. -/
def length : ColumnData → Nat
  | fixed column => column.cells.length
  | boxed column => column.rows.length

/-- Whether a row is known to be NULL; no row behind the end is. -/
def isNull : ColumnData → Nat → Bool
  | fixed column, row => column.isNull row
  | boxed column, row => column.isNull row

/-- Keep the first rows. -/
def truncate : ColumnData → Nat → ColumnData
  | fixed column, rows => fixed (column.truncate rows)
  | boxed column, rows => boxed (column.truncate rows)

end ColumnData

namespace Column

/-- The type of a column. -/
def type (column : Column) : ColumnType :=
  column.data.type

/-- How many rows of a column are visible. -/
def length (column : Column) : Nat :=
  column.data.length

/-- Whether a column shows no rows. -/
def isEmpty (column : Column) : Bool :=
  column.length = 0

/-- Keep the first rows of a column. -/
def truncate (column : Column) (rows : Nat) : Column :=
  { column with data := column.data.truncate rows }

/-- The error for a row that a column does not show. -/
def outOfBounds (column : Column) (row : Nat) : Error :=
  .rowOutOfBounds row column.length

/-- The value at a row. -/
def value (column : Column) (row : Nat) : Except Error Value :=
  match column.data with
  | .fixed view =>
      match view.cells[row]? with
      | some cell => .ok (view.valueOf (view.isNull row) cell)
      | none => .error (column.outOfBounds row)
  | .boxed copy =>
      match copy.rows[row]? with
      | some content => .ok (copy.valueOf content)
      | none => .error (column.outOfBounds row)

/-- Whether the row is known to be NULL. -/
def isNull (column : Column) (row : Nat) : Except Error Bool :=
  if row < column.length then .ok (column.data.isNull row)
  else .error (column.outOfBounds row)

/-- The exact number at a row, none for NULL. A boxed column is refused before the row is
looked at. -/
def decimal (column : Column) (row : Nat) : Except Error (Option Decimal) :=
  match column.data with
  | .fixed view =>
      match view.cells[row]? with
      | some cell => .ok (view.decimalOf (view.isNull row) cell)
      | none => .error (column.outOfBounds row)
  | .boxed _ => .error (.notDecimal column.type)

/-- The values of all visible rows. -/
def values (column : Column) : List (Except Error Value) :=
  (List.range column.length).map column.value

end Column

end ColumnStore
