import ColumnStore.Sql.Coercion
import ColumnStore.Sql.Statement

/-!
# Tables

A table has declared columns and rows of values, one value for each column. This module
holds what statements do to a single table: finding columns and rows, and making,
changing and removing rows. The new rows and values are all computed before any is put
into the table, so a failure leaves nothing half done.
-/

set_option autoImplicit false

namespace ColumnStore

/-- The value an expression stands for; placeholders take theirs from the parameters. -/
def Expression.resolve (parameters : List Value) : Expression → Except Failure Value
  | literal value => .ok value
  | placeholder index =>
      match parameters[index]? with
      | some value => .ok value
      | none => .error (.unboundPlaceholder (index + 1))

/-- A row of a table. -/
abbrev Row := List Value

/-- A table of the engine. -/
structure Table where
  name : String
  columns : List ColumnDeclaration
  rows : List Row
  deriving DecidableEq, Repr

namespace Table

/-- The position of a column and its declaration. -/
structure Target where
  position : Nat
  column : ColumnDeclaration
  deriving DecidableEq, Repr

/-- The column with a name. -/
def target (table : Table) (column : String) : Except Failure Target :=
  match table.columns.zipIdx.find? fun entry => entry.1.name = column with
  | some (declaration, position) => .ok ⟨position, declaration⟩
  | none => .error (.unknownColumn column table.name)

/-- The columns that a list of names names; without a list all of them in order. -/
def targets (table : Table) (names : Option (List String)) : Except Failure (List Target) :=
  match names with
  | some names => names.mapM table.target
  | none => .ok (table.columns.zipIdx.map fun entry => ⟨entry.2, entry.1⟩)

/-- The value of an expression in the form a column stores. -/
def Target.coerce (target : Target) (parameters : List Value) (expression : Expression) :
    Except Failure Value := do
  target.column.type.coerce (← expression.resolve parameters)

/-- The cell of a row at a position. -/
def cell (row : Row) (position : Nat) : Value :=
  row[position]?.getD .null

/-- The test that rows have to pass. Without a filter every row does; NULL is never equal
to anything. -/
def test (table : Table) (filter : Option Filter) (parameters : List Value) :
    Except Failure (Row → Bool) :=
  match filter with
  | none => .ok fun _ => true
  | some filter => do
      let target ← table.target filter.column
      let wanted ← target.coerce parameters filter.value
      if wanted.isNull then return fun _ => false
      return fun row => (cell row target.position).same wanted

/-- Put values into a row, the later ones over the earlier. -/
def assign (row : Row) (values : List (Nat × Value)) : Row :=
  values.foldl (fun row entry => row.set entry.1 entry.2) row

/-- Pair targets with the values of as many expressions. -/
def coerceAll (parameters : List Value) (pairs : List (Target × Expression)) :
    Except Failure (List (Nat × Value)) :=
  pairs.mapM fun pair => do
    return (pair.1.position, ← pair.1.coerce parameters pair.2)

/-- A new row: the values of the expressions at the targets, NULL elsewhere. -/
def newRow (table : Table) (targets : List Target) (parameters : List Value)
    (expressions : List Expression) : Except Failure Row := do
  if expressions.length ≠ targets.length then throw .valueCount
  let values ← coerceAll parameters (targets.zip expressions)
  return assign (List.replicate table.columns.length .null) values

/-- Append rows, and count them. -/
def insert (table : Table) (names : Option (List String)) (rows : List (List Expression))
    (parameters : List Value) : Except Failure (Table × Nat) := do
  let targets ← table.targets names
  let rows ← rows.mapM (table.newRow targets parameters)
  return ({ table with rows := table.rows ++ rows }, rows.length)

/-- The positions of the rows that pass a test, in increasing order. -/
def positions (table : Table) (test : Row → Bool) : List Nat :=
  (table.rows.zipIdx.filter fun entry => test entry.1).map (·.2)

/-- The rows at some positions. -/
def rowsAt (table : Table) (positions : List Nat) : List Row :=
  positions.filterMap (table.rows[·]?)

/-- Change the rows that pass a filter, one position after the other, and count them. -/
def update (table : Table) (assignments : List Assignment) (filter : Option Filter)
    (parameters : List Value) : Except Failure (Table × Nat) := do
  let values ← assignments.mapM fun assignment => do
    let target ← table.target assignment.column
    return (target.position, ← target.coerce parameters assignment.value)
  let test ← table.test filter parameters
  let positions := table.positions test
  let rows := positions.foldl (fun rows position => rows.modify position (assign · values))
    table.rows
  return ({ table with rows }, positions.length)

/-- The rows whose positions, counted from a start, are not among those given, which have to be
in increasing order. -/
def retain (positions : Array Nat) : List Row → Nat → List Row
  | [], _ => []
  | row :: rows, position =>
      let kept := retain positions rows (position + 1)
      if positions.binSearchContains position (· < ·) then kept else row :: kept

/-- Remove the rows that pass a filter, and count them. -/
def delete (table : Table) (filter : Option Filter) (parameters : List Value) :
    Except Failure (Table × Nat) := do
  let test ← table.test filter parameters
  let positions := table.positions test
  return ({ table with rows := retain positions.toArray table.rows 0 }, positions.length)

/-- The rows that pass a filter, with the columns of a projection. -/
def select (table : Table) (projection : Option (List String)) (filter : Option Filter)
    (parameters : List Value) : Except Failure (List Target × List Row) := do
  let targets ← table.targets projection
  let test ← table.test filter parameters
  let rows := (table.rowsAt (table.positions test)).map fun row =>
    targets.map fun target => cell row target.position
  return (targets, rows)

end Table

end ColumnStore
