import ColumnStore.Column.Materialize

/-!
# The columns of a result

The columns of one result, in the engine's order, and the number of rows the result was
reported to have. They are gathered one after the other, and the first that fails ends
the gathering: later columns are not even asked for, and the NULLs of earlier ones stay
zero.
-/

set_option autoImplicit false

namespace ColumnStore

/-- The columns of one result. -/
structure Columns where
  columns : List Column
  rowCount : Nat

namespace Columns

/-- No columns and no rows. -/
def empty : Columns :=
  ⟨[], 0⟩

/-- How many columns there are. -/
def length (columns : Columns) : Nat :=
  columns.columns.length

/-- The column with an index. -/
def get? (columns : Columns) (index : Nat) : Option Column :=
  columns.columns[index]?

/-- The index of the first column with a name. -/
def position? (columns : Columns) (name : String) : Option Nat :=
  columns.columns.findIdx? (·.name = name)

/-- The first column with a name. -/
def byName (columns : Columns) (name : String) : Except Error Column :=
  match columns.columns.find? (·.name = name) with
  | some column => .ok column
  | none => .error (.columnNotFound name)

/-- The value at a row of the column with an index. -/
def value (columns : Columns) (row index : Nat) : Except Error Value :=
  match columns.get? index with
  | some column => column.value row
  | none => .error (.columnIndexNotFound index)

/-- All values of a row, one for each column. -/
def row (columns : Columns) (row : Nat) : Except Error (List Value) :=
  columns.columns.mapM (·.value row)

/-- Keep the first rows of every column; a limit that hides nothing changes nothing. -/
def truncate (columns : Columns) (rows : Nat) : Columns :=
  if columns.rowCount ≤ rows then columns
  else ⟨columns.columns.map (·.truncate rows), rows⟩

/-- Keep the first rows of one column, if there is such a column. -/
def truncateColumn (columns : Columns) (index rows : Nat) : Columns :=
  { columns with columns := columns.columns.modify index (·.truncate rows) }

/-- Gather so many columns, up to the first that fails. Whatever the columns gathered so
far did to the state `σ` remains. -/
def gather {σ : Type} (count rowCount : Nat) (column : Nat → ExceptT Error (StateM σ) Column) :
    ExceptT Error (StateM σ) Columns := do
  let columns ← (List.range count).mapM column
  return ⟨columns, rowCount⟩

end Columns

/-- Descriptors, and the indexes that have been asked for, the latest first. -/
structure DescriptorShelf where
  descriptors : List Descriptor
  asked : List Nat

namespace DescriptorShelf

/-- Fetch the descriptor with an index and materialize it in place. `refusal` tells for
which indexes fetching fails, and how. -/
def column (layout : TagLayout) (refusal : Nat → Option Error) (index : Nat) :
    ExceptT Error (StateM DescriptorShelf) Column := fun shelf =>
  let shelf := { shelf with asked := index :: shelf.asked }
  match refusal index, shelf.descriptors[index]? with
  | some error, _ => (.error error, shelf)
  | none, none => (.error (.columnIndexNotFound index), shelf)
  | none, some descriptor =>
      let (column, zeroed) := descriptor.materialize layout index
      (column, { shelf with descriptors := shelf.descriptors.set index zeroed })

/-- Materialize every descriptor in order. The answer is the columns, or why there are
none, and the shelf afterwards. -/
def materialize (layout : TagLayout) (refusal : Nat → Option Error) (rowCount : Nat)
    (descriptors : List Descriptor) : Except Error Columns × DescriptorShelf :=
  (Columns.gather descriptors.length rowCount (column layout refusal)).run ⟨descriptors, []⟩

end DescriptorShelf

end ColumnStore
