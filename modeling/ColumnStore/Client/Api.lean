import ColumnStore.Columns
import ColumnStore.Native.Library

/-!
# Checked calls

Every call through the function table is checked here: a text answered by an entry is a
native error with that text, and so is a missing object where one has to be. Objects
are passed as handles; who releases them is the business of the callers.
-/

set_option autoImplicit false

namespace ColumnStore

/-- An action of the client, which may fail, on the state of the library. -/
abbrev Call (σ : Type) := ExceptT Error (StateM σ)

/-- A function table and what is known about the library behind it. -/
structure Api (σ : Type) where
  table : FunctionTable σ
  layout : TagLayout
  /-- The path of the library, if one was loaded. -/
  path : Option String

namespace Api

variable {σ : Type}

/-- A function table that did not come from a file. -/
def ofTable (table : FunctionTable σ) (layout : TagLayout) : Api σ :=
  ⟨table, layout, none⟩

/-- The function table of a loaded library. -/
def ofLibrary (library : NativeLibrary σ) (layout : TagLayout) : Api σ :=
  ⟨library.table, layout, some library.path⟩

/-- A text answered by an entry is an error. -/
def check {α : Type} (entry : EntryPoint) (reply : StateM σ (Reply α)) : Call σ α :=
  fun state =>
    match reply state with
    | (.ok answer, state) => (.ok answer, state)
    | (.error text, state) => (.error (.native entry text.toString), state)

/-- Call for the effect alone: whether it fails is of no interest. -/
def attempt {α : Type} (call : Call σ α) : Call σ Unit := fun state =>
  (.ok (), (call state).2)

/-- Give up with an error after a call for its effect alone. -/
def abandon {α β : Type} (call : Call σ α) (error : Error) : Call σ β := do
  attempt call
  throw error

/-- An outcome that is known without a call. -/
def settle {α : Type} (outcome : Except Error α) : Call σ α := fun state =>
  (outcome, state)

/-- An object that has to be there. -/
def require {α : Type} (entry : EntryPoint) (missing : String) : Option α → Call σ α
  | some object => pure object
  | none => throw (.native entry missing)

/-- The text of the latest failure of a database. -/
def lastError (api : Api σ) (database : Handle .database) : StateM σ (Option String) := do
  return (← api.table.lastError (some database)).map NativeText.toString

/-- The error for a code: the text the database reports, or the code itself. -/
def codeError (entry : EntryPoint) (code : Int32) (reported : Option String) : Error :=
  .native entry (reported.getD s!"{entry.symbol} failed with code {code.toInt}")

/-- Close a database. A failure is explained by the database, which stays readable. -/
def closeDatabase (api : Api σ) (database : Handle .database) : Call σ Unit := do
  let code ← (api.table.closeDatabase (some database) : StateM σ Int32)
  if code ≠ 0 then
    throw (codeError .close code (← (api.lastError database : StateM σ (Option String))))

/-- Open a database. A database that is handed out although opening it failed is asked for
the reason and closed. -/
def openDatabase (api : Api σ) (url : Option NativeText) (options : Option NativeOptions) :
    Call σ (Handle .database) := do
  let (code, stored) ← (api.table.openDatabase url options : StateM σ _)
  if code = 0 then require .open "no database handle returned" stored
  else
    match stored with
    | none => throw (codeError .open code none)
    | some database =>
        let reported ← (api.lastError database : StateM σ (Option String))
        abandon (api.closeDatabase database) (codeError .open code reported)

/-- Whether every statement is its own transaction. -/
def autocommit (api : Api σ) (database : Handle .database) : Call σ Bool := do
  return (← check .getAutocommit (api.table.getAutocommit (some database))) ≠ 0

/-- Make every statement its own transaction, or not. -/
def setAutocommit (api : Api σ) (database : Handle .database) (enabled : Bool) :
    Call σ Unit :=
  check .setAutocommit (api.table.setAutocommit (some database) (if enabled then 1 else 0))

/-- Run a statement. -/
def query (api : Api σ) (database : Handle .database) (text : NativeText) :
    Call σ Executed :=
  check .query (api.table.query (some database) (some text))

/-- The column of a result with an index. -/
def resultFetch (api : Api σ) (result : Handle .result) (index : Nat) :
    Call σ LiveColumn := do
  let column ← check .resultFetch (api.table.resultFetch (some result) index)
  require .resultFetch "no column descriptor returned" column

/-- Fetch a column of a result and materialize it in place. -/
def materialize (api : Api σ) (result : Handle .result) (index : Nat) : Call σ Column := do
  let live ← api.resultFetch result index
  let (column, zeroed) := live.descriptor.materialize api.layout index
  (api.table.writeCells live zeroed.cells : StateM σ Unit)
  settle column

/-- Fetch and materialize the columns of a result. -/
def columns (api : Api σ) (result : LiveResult) : Call σ Columns :=
  Columns.gather result.header.columnCount result.header.rowCount.toNat
    (api.materialize result.handle)

/-- Release a result. -/
def cleanupResult (api : Api σ) (database : Handle .database) (result : Handle .result) :
    Call σ Unit :=
  check .cleanupResult (api.table.cleanupResult (some database) (some result))

/-- Prepare a statement: the statement, and its description if there is one. -/
def prepare (api : Api σ) (database : Handle .database) (text : NativeText) :
    Call σ (LiveStatement × Option LiveResult) := do
  let prepared ← check .prepare (api.table.prepare (some database) (some text))
  let statement ← require .prepare "no statement returned" prepared.statement
  return (statement, prepared.description)

/-- Bind a datum to the parameter with an index, counted from zero. -/
def bind (api : Api σ) (statement : Handle .statement) (datum : NativeDatum)
    (index : Nat) : Call σ Unit :=
  check .bind (api.table.bind (some statement) (some datum) index)

/-- Run a prepared statement. -/
def execute (api : Api σ) (statement : Handle .statement) : Call σ Executed :=
  check .execute (api.table.execute (some statement))

/-- Release a statement. -/
def cleanupStatement (api : Api σ) (database : Handle .database)
    (statement : Handle .statement) : Call σ Unit :=
  check .cleanupStatement (api.table.cleanupStatement (some database) (some statement))

/-- The datum reserved for NULL in a type. -/
def nullValue (api : Api σ) (database : Handle .database) (type : ColumnType) :
    Call σ NativeDatum := do
  let tag ← settle (api.layout.encode type)
  let datum ← ExceptT.mk (api.table.nullValue (some database) tag)
  require .null s!"no null value for {type.name}" datum

/-- How an API is shown. -/
def description (api : Api σ) : String :=
  let library :=
    match api.path with
    | some path => s!"Some({NativeLibrary.description path})"
    | none => "None"
  s!"Api \x7b layout: {api.layout.description}, library: {library} \x7d"

end Api

end ColumnStore
