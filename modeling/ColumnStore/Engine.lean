import ColumnStore.Engine.StoredStatement

/-!
# The engine

Everything the engine keeps between calls: the objects it has handed out and how many of
each are alive. The counters are kept on their own, as the engine reports them; that they
agree with the objects is a fact about the calls callers make.
-/

set_option autoImplicit false

namespace ColumnStore

/-- How many objects are alive, and how often a column has been handed out. -/
structure Counters where
  databases : Nat
  results : Nat
  statements : Nat
  fetches : Nat
  deriving DecidableEq, Repr

/-- The engine's objects. -/
structure Engine where
  databases : Registry Database
  results : Registry NativeResult
  statements : Registry StoredStatement
  counters : Counters

namespace Counters

/-- Nothing has been handed out. -/
def zero : Counters :=
  ⟨0, 0, 0, 0⟩

end Counters

namespace Engine

/-- No objects. -/
def empty : Engine :=
  ⟨Registry.empty, Registry.empty, Registry.empty, Counters.zero⟩

/-- The object behind a handle, if the handle is one of the engine's. -/
def follow {α : Type} {resource : Resource} (registry : Registry α) (handle : Handle resource) :
    Option α :=
  match handle.keeper with
  | .engine => registry.find? handle.number
  | .script => none

/-- The database behind a handle, if one is given. -/
def database? (engine : Engine) (given : Option (Handle .database)) : Option Database :=
  given.bind (follow engine.databases)

/-- The result behind a handle, if one is given. -/
def result? (engine : Engine) (given : Option (Handle .result)) : Option NativeResult :=
  given.bind (follow engine.results)

/-- The statement behind a handle, if one is given. -/
def statement? (engine : Engine) (given : Option (Handle .statement)) :
    Option StoredStatement :=
  given.bind (follow engine.statements)

/-- Keep a database. -/
def addDatabase (engine : Engine) (database : Database) : Handle .database × Engine :=
  (⟨.engine, engine.databases.nextNumber⟩,
    { engine with
      databases := engine.databases.add database
      counters.databases := engine.counters.databases + 1 })

/-- Keep a result. -/
def addResult (engine : Engine) (result : NativeResult) : LiveResult × Engine :=
  (⟨⟨.engine, engine.results.nextNumber⟩, result.header⟩,
    { engine with
      results := engine.results.add result
      counters.results := engine.counters.results + 1 })

/-- Keep a statement, whose parameters have these type tags. -/
def addStatement (engine : Engine) (stored : StoredStatement) (tags : List Int32) :
    LiveStatement × Engine :=
  (⟨⟨.engine, engine.statements.nextNumber⟩, stored.parameters.length, some tags⟩,
    { engine with
      statements := engine.statements.add stored
      counters.statements := engine.counters.statements + 1 })

/-- Put a database in the place of the one behind a handle. -/
def setDatabase (engine : Engine) (handle : Handle .database) (database : Database) :
    Engine :=
  { engine with databases := engine.databases.modify handle.number fun _ => database }

/-- Put a statement in the place of the one behind a handle. -/
def setStatement (engine : Engine) (handle : Handle .statement) (stored : StoredStatement) :
    Engine :=
  { engine with statements := engine.statements.modify handle.number fun _ => stored }

/-- Change the columns of the result behind a handle. -/
def modifyColumns (engine : Engine) (handle : Handle .result)
    (change : List Descriptor → List Descriptor) : Engine :=
  { engine with
    results := engine.results.modify handle.number fun result =>
      { result with columns := change result.columns } }

/-- Release a database. -/
def removeDatabase (engine : Engine) (handle : Handle .database) : Engine :=
  { engine with
    databases := engine.databases.remove handle.number
    counters.databases := engine.counters.databases - 1 }

/-- Release a result. -/
def removeResult (engine : Engine) (handle : Handle .result) : Engine :=
  { engine with
    results := engine.results.remove handle.number
    counters.results := engine.counters.results - 1 }

/-- Release a statement. -/
def removeStatement (engine : Engine) (handle : Handle .statement) : Engine :=
  { engine with
    statements := engine.statements.remove handle.number
    counters.statements := engine.counters.statements - 1 }

/-- Count a column that is handed out. -/
def countFetch (engine : Engine) : Engine :=
  { engine with counters.fetches := engine.counters.fetches + 1 }

/-- Record a failure of the database behind a handle; its text is handed out. -/
def fail (engine : Engine) (handle : Handle .database) (database : Database)
    (failure : Failure) : NativeText × Engine :=
  let (text, failed) := database.fail failure
  (text, engine.setDatabase handle failed)

end Engine

end ColumnStore
