import ColumnStore.Sql.DeclaredType
import ColumnStore.Value

/-!
# SQL statements

The statements the engine understands: creating and dropping a table, inserting rows,
and selecting, updating and deleting the rows in which one column equals a value. A
value is a literal or a placeholder; placeholders are numbered from zero in the order
in which they are written.
-/

set_option autoImplicit false

namespace ColumnStore

/-- A value in a statement. -/
inductive Expression
  | literal (value : Value)
  | placeholder (index : Nat)
  deriving DecidableEq, Repr

/-- The declaration of a table column. -/
structure ColumnDeclaration where
  name : String
  type : DeclaredType
  deriving DecidableEq, Repr

/-- The condition that a column equals a value. -/
structure Filter where
  column : String
  value : Expression
  deriving DecidableEq, Repr

/-- A new value for a column. -/
structure Assignment where
  column : String
  value : Expression
  deriving DecidableEq, Repr

/-- A statement. -/
inductive Statement
  | createTable (table : String) (columns : List ColumnDeclaration)
  | dropTable (table : String)
  /-- Without a column list the values are for all columns in order. -/
  | insert (table : String) (columns : Option (List String)) (rows : List (List Expression))
  /-- Without a projection all columns are returned in order. -/
  | select (table : String) (projection : Option (List String)) (filter : Option Filter)
  | update (table : String) (assignments : List Assignment) (filter : Option Filter)
  | delete (table : String) (filter : Option Filter)
  deriving DecidableEq, Repr

namespace Statement

/-- The table a statement is about. -/
def table : Statement → String
  | createTable table _ => table
  | dropTable table => table
  | insert table _ _ => table
  | select table _ _ => table
  | update table _ _ => table
  | delete table _ => table

/-- The values of a statement, in the order in which they are written. -/
def expressions : Statement → List Expression
  | createTable .. => []
  | dropTable _ => []
  | insert _ _ rows => rows.flatten
  | select _ _ filter => (filter.map (·.value)).toList
  | update _ assignments filter =>
      assignments.map (·.value) ++ (filter.map (·.value)).toList
  | delete _ filter => (filter.map (·.value)).toList

/-- The placeholders of a statement, in the order in which they are written. -/
def placeholders (statement : Statement) : List Nat :=
  statement.expressions.filterMap fun expression =>
    match expression with
    | .literal _ => none
    | .placeholder index => some index

end Statement

end ColumnStore
