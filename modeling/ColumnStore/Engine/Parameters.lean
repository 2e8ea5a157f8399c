import ColumnStore.Engine.Database

/-!
# The parameters of a statement

A placeholder has the declared type of the column it is inserted into, assigned to or
compared with. The parameters of a statement are its placeholders by number. In an
insertion a row is read along with the columns that are named, so a placeholder behind the
last of them has no type and is no parameter.
-/

set_option autoImplicit false

namespace ColumnStore

/-- Types of placeholders by their number, in increasing order. -/
abbrev PlaceholderTypes := List (Nat × DeclaredType)

namespace PlaceholderTypes

/-- Give a placeholder a type, in place of the one it had. -/
def note (index : Nat) (type : DeclaredType) : PlaceholderTypes → PlaceholderTypes
  | [] => [(index, type)]
  | (other, known) :: rest =>
      if index < other then (index, type) :: (other, known) :: rest
      else if index = other then (index, type) :: rest
      else (other, known) :: note index type rest

/-- Give an expression the type of a column, if it is a placeholder. -/
def noteExpression (types : PlaceholderTypes) (column : ColumnDeclaration) :
    Expression → PlaceholderTypes
  | .literal _ => types
  | .placeholder index => types.note index column.type

/-- Give the expressions of a row the types of the columns they stand for. -/
def noteRow (types : PlaceholderTypes) (targets : List Table.Target)
    (expressions : List Expression) : PlaceholderTypes :=
  (targets.zip expressions).foldl (fun types pair => types.noteExpression pair.1.column pair.2)
    types

/-- Give the value of a filter the type of the column it is compared with. -/
def noteFilter (types : PlaceholderTypes) (table : Table) :
    Option Filter → Except Failure PlaceholderTypes
  | none => .ok types
  | some filter => do
      let target ← table.target filter.column
      return types.noteExpression target.column filter.value

/-- Give the values of assignments the types of the columns they are assigned to. -/
def noteAssignments (types : PlaceholderTypes) (table : Table) :
    List Assignment → Except Failure PlaceholderTypes
  | [] => .ok types
  | assignment :: assignments => do
      let target ← table.target assignment.column
      (types.noteExpression target.column assignment.value).noteAssignments table assignments

end PlaceholderTypes

namespace Database

/-- The types of a statement's placeholders, by number. -/
def placeholderTypes (database : Database) (statement : Statement) :
    Except Failure PlaceholderTypes :=
  match statement with
  | .createTable .. => .ok []
  | .dropTable _ => .ok []
  | .insert name columns rows => do
      let table ← database.catalog.table name
      let targets ← table.targets columns
      return rows.foldl (fun types row => types.noteRow targets row) []
  | .select name _ filter => do
      PlaceholderTypes.noteFilter [] (← database.catalog.table name) filter
  | .delete name filter => do
      PlaceholderTypes.noteFilter [] (← database.catalog.table name) filter
  | .update name assignments filter => do
      let table ← database.catalog.table name
      let types ← PlaceholderTypes.noteAssignments [] table assignments
      types.noteFilter table filter

/-- The declared types of a statement's parameters in order; types the layout cannot carry
are refused. -/
def parameterTypes (database : Database) (statement : Statement) :
    Except Failure (List DeclaredType) := do
  let types := (← database.placeholderTypes statement).map (·.2)
  types.forM fun type => type.checkLayout database.layout
  return types

end Database

end ColumnStore
