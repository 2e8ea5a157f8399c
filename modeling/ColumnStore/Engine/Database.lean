import ColumnStore.Engine.Catalog
import ColumnStore.Engine.Result

/-!
# Databases and statements

A database runs statements on its tables. A statement that fails changes nothing: the
tables afterwards are computed together with the effect, and only exist if there is one.
-/

set_option autoImplicit false

namespace ColumnStore

/-- An open database of the engine. -/
structure Database where
  layout : TagLayout
  catalog : Catalog
  autocommit : Bool
  /-- The text of the latest failure. -/
  lastError : Option NativeText

/-- What a statement does besides changing tables. -/
inductive Effect
  | rows (result : NativeResult)
  /-- The tables there are have changed. -/
  | schema
  /-- So many rows were made, changed or removed. -/
  | affected (count : Nat)

namespace ColumnDeclaration

/-- The column a query returns for a table column. -/
def output (column : ColumnDeclaration) : OutputColumn :=
  ⟨column.name, column.type⟩

/-- Refuse columns the layout cannot carry and names that repeat an earlier one. -/
def checkAll (layout : TagLayout) : List String → List ColumnDeclaration → Except Failure Unit
  | _, [] => .ok ()
  | earlier, column :: columns => do
      column.type.checkLayout layout
      if column.name ∈ earlier then throw (.columnExists column.name)
      checkAll layout (column.name :: earlier) columns

end ColumnDeclaration

namespace Database

/-- A database just opened: no tables, and every statement its own transaction. -/
def new (layout : TagLayout) : Database :=
  ⟨layout, Catalog.empty, true, none⟩

/-- Record a failure, whose text is handed out. A NUL inside it becomes a space. -/
def fail (database : Database) (failure : Failure) : NativeText × Database :=
  let text := NativeText.blankingNul failure.message
  (text, { database with lastError := some text })

/-- The database with another table in its catalog. -/
def put (database : Database) (table : Table) : Database :=
  { database with catalog := database.catalog.put table }

/-- Run a statement with values for its placeholders. -/
def execute (database : Database) (statement : Statement) (parameters : List Value) :
    Except Failure (Database × Effect) :=
  match statement with
  | .createTable name columns => do
      if (database.catalog.find? name).isSome then throw (.tableExists name)
      ColumnDeclaration.checkAll database.layout [] columns
      return (database.put ⟨name, columns, []⟩, .schema)
  | .dropTable name => do
      if (database.catalog.find? name).isNone then throw (.nothingToDrop name)
      return ({ database with catalog := database.catalog.remove name }, .schema)
  | .insert name columns rows => do
      let table ← database.catalog.table name
      let (table, count) ← table.insert columns rows parameters
      return (database.put table, .affected count)
  | .select name projection filter => do
      let table ← database.catalog.table name
      let (targets, rows) ← table.select projection filter parameters
      let outputs := targets.map fun target => target.column.output
      let result ← NativeResult.ofRows database.layout name outputs rows
      return (database, .rows result)
  | .update name assignments filter => do
      let table ← database.catalog.table name
      let (table, count) ← table.update assignments filter parameters
      return (database.put table, .affected count)
  | .delete name filter => do
      let table ← database.catalog.table name
      let (table, count) ← table.delete filter parameters
      return (database.put table, .affected count)

/-- The columns a statement returns, under the name of their table; only queries return
any. -/
def outputs (database : Database) (statement : Statement) :
    Except Failure (String × List OutputColumn) :=
  match statement with
  | .select name projection _ => do
      let table ← database.catalog.table name
      let targets ← table.targets projection
      return (name, targets.map fun target => target.column.output)
  | _ => .ok ("", [])

end Database

end ColumnStore
