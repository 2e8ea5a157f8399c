import ColumnStore.Columns

/-!
# What a prepared statement says about itself

The description of a prepared statement is a result with a row for each column that the
statement returns and for each of its parameters; the latter have no column name. Reading
it sorts the rows into the two lists, each in the order of the rows.
-/

set_option autoImplicit false

namespace ColumnStore

/-- The declared type of a parameter. -/
structure ParameterInfo where
  type : ColumnType
  sqlType : String
  digits : Nat
  scale : Nat
  deriving DecidableEq, Repr

/-- The name and the declared type of a column a statement returns. -/
structure OutputInfo where
  name : String
  type : ColumnType
  sqlType : String
  digits : Nat
  scale : Nat
  deriving DecidableEq, Repr

/-- The parameters and the columns of a statement. -/
structure Metadata where
  parameters : List ParameterInfo
  columns : List OutputInfo
  deriving DecidableEq, Repr

namespace Metadata

/-- Nothing is known. -/
def empty : Metadata :=
  ⟨[], []⟩

/-- The text in a cell, if it is one. -/
def text (columns : Columns) (row index : Nat) : Except Error (Option String) := do
  return (← columns.value row index).toText?

/-- The number in a cell, zero if there is none of 32 bits without a sign. -/
def number (columns : Columns) (row index : Nat) : Except Error Nat := do
  match (← columns.value row index).toInt? with
  | some n => return if 0 ≤ n ∧ n < 4294967296 then n.toNat else 0
  | none => return 0

/-- The type in a cell; what names none is unknown. -/
def typeCell (columns : Columns) (row index : Nat) : Except Error ColumnType := do
  return ((← text columns row index).bind ColumnType.ofKernelName?).getD .unknown

/-- Add what a row says. -/
def addRow (columns : Columns) (metadata : Metadata) (row : Nat) : Except Error Metadata := do
  let sqlType := (← text columns row 0).getD ""
  let digits ← number columns row 1
  let scale ← number columns row 2
  let type ← typeCell columns row 6
  match ← text columns row 5 with
  | some name =>
      return { metadata with columns := metadata.columns ++ [⟨name, type, sqlType, digits, scale⟩] }
  | none =>
      return { metadata with
        parameters := metadata.parameters ++ [⟨type, sqlType, digits, scale⟩] }

/-- Read a description. -/
def ofColumns (columns : Columns) : Except Error Metadata :=
  (List.range columns.rowCount).foldlM (addRow columns) empty

end Metadata

end ColumnStore
