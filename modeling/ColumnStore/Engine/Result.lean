import ColumnStore.Native.FunctionTable
import ColumnStore.Engine.Table
import ColumnStore.Sql.TypeName

/-!
# The layout of results

How the engine lays out the rows of a query: for every column a descriptor with the cells
of all rows. A decimal becomes its unscaled integer, NULL the cell reserved for it, and so
does a date whose year has no native form. An integer is cut to the width of its cell; no
stored value is ever too wide.
-/

set_option autoImplicit false

namespace ColumnStore

/-- A column of a result: its name and declared type. -/
structure OutputColumn where
  name : String
  type : DeclaredType
  deriving DecidableEq, Repr

namespace OutputColumn

/-- A text as the engine hands it over. -/
def terminated (text : String) : Except Failure NativeText :=
  match NativeText.ofString? text with
  | some text => .ok text
  | none => .error (.interiorNul (NativeText.nulPosition text))

/-- The integer that is stored for a value. -/
def storedInteger? (scale : Nat) : Value → Option Int
  | .decimal number => (number.toUnscaled? scale).map (·.val)
  | value => value.toInt?

/-- The cell of a fixed-width column for a value. -/
def fixedCell (kind : FixedKind) (scale : Nat) (value : Value) : kind.Cell :=
  match kind with
  | .bool => ((storedInteger? scale value).map IntegerKind.int8.wrap).getD
      IntegerKind.int8.sentinel
  | .integer kind => ((storedInteger? scale value).map kind.wrap).getD kind.sentinel
  | .float => (value.toDouble?.map (·.convert .single)).getD Binary.nan
  | .double => value.toDouble?.getD Binary.nan

/-- The cell of a boxed column for a value; a text column takes any value as its text. -/
def boxedCell (kind : BoxedKind) (value : Value) : Except Failure kind.Cell :=
  match kind, value with
  | .str, .null => .ok none
  | .str, value => some <$> terminated value.text
  | .blob, .blob bytes => .ok (.bytes bytes)
  | .date, .date day => .ok (day.toCell.toOption.getD DateCell.sentinel)
  | .time, .time instant => .ok instant.toCell
  | .timestamp, .timestamp instant =>
      .ok (instant.toCell.toOption.getD TimestampCell.sentinel)
  | kind, _ => .ok kind.sentinel

/-- The cells of a column for the values of its rows. -/
def cells (column : OutputColumn) (values : List Value) : Except Failure ColumnCells :=
  match column.type.storage with
  | .fixed kind =>
      .ok (.fixed kind (.ofFixed kind (values.map (fixedCell kind column.type.scale))))
  | .boxed kind => do
      let cells ← values.mapM (boxedCell kind)
      return .boxed kind (.ofBoxed kind cells)
  | .unknown => .error (.unknownType column.type.name)

/-- The tag of a type in the engine's numbering. -/
def tag (layout : TagLayout) (type : DeclaredType) : Except Failure Int32 :=
  match layout.encode type.storage with
  | .ok tag => .ok tag
  | .error _ => .error .untaggable

/-- The descriptor of a column with these values. -/
def descriptor (layout : TagLayout) (column : OutputColumn) (values : List Value) :
    Except Failure Descriptor := do
  column.type.checkLayout layout
  let tag ← tag layout column.type
  let name ← terminated column.name
  let cells ← column.cells values
  return ⟨tag, some name, column.type.digits, column.type.scale, cells⟩

end OutputColumn

namespace NativeResult

/-- A result with these columns and rows. -/
def ofRows (layout : TagLayout) (name : String) (columns : List OutputColumn)
    (rows : List Row) : Except Failure NativeResult := do
  let name ← OutputColumn.terminated name
  let descriptors ← columns.zipIdx.mapM fun (column, index) =>
    column.descriptor layout (rows.map fun row => Table.cell row index)
  return ⟨⟨rows.length, descriptors.length, some name, -1⟩, descriptors⟩

/-- The result of a change to the tables there are: no columns and no name. -/
def withoutColumns : NativeResult :=
  ⟨⟨0, 0, none, -1⟩, []⟩

end NativeResult

end ColumnStore
