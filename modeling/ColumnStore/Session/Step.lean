import ColumnStore.Client.Statement
import ColumnStore.Engine.Probe
import ColumnStore.Session.Script

/-!
# Steps of a session

What a session can be asked to do, and what it answers. Databases, results and statements
are spoken of by the names they are kept under.
-/

set_option autoImplicit false

namespace ColumnStore

/-- Where the function table of a database comes from. -/
inductive Source
  /-- The engine, with a numbering of type tags. -/
  | engine (layout : TagLayout)
  /-- The file at a path, with the symbols it exports if the loader accepts it. -/
  | file (path : String) (symbols : Option (List String))

/-- How a database is opened. -/
structure Opening where
  source : Source
  address : Option String
  options : Options
  script : Script NativeResult

namespace Opening

/-- The numbering of type tags a database is opened with. -/
def layout (opening : Opening) : TagLayout :=
  match opening.source with
  | .engine layout => layout
  | .file .. => opening.options.layout

/-- Open a database as asked for. -/
def connect (opening : Opening) : Call Backend (Connection Backend) := do
  let script ← (opening.script.place : StateM Backend _)
  let table := script.table (Backend.engineTable opening.layout)
  match opening.source with
  | .engine layout =>
      Connection.openDatabase (Api.ofTable table layout) opening.address opening.options
  | .file path symbols =>
      let library := NativeLibrary.load path (symbols.map fun symbols => ⟨symbols, table⟩)
      Connection.load library opening.address opening.options

end Opening

/-- How a parameter is bound. -/
inductive Binding
  | value (given : Value)
  | null
  | blob (bytes : Bytes)
  | date (cell : DateCell)
  | time (cell : TimeCell)
  | timestamp (cell : TimestampCell)

/-- The change a binding makes to a statement. -/
def Binding.update {σ : Type} (index : Nat) : Binding → PreparedStatement.Update σ
  | value given => PreparedStatement.bind index given
  | null => PreparedStatement.bindNull index
  | blob bytes => PreparedStatement.bindBlob index bytes
  | date cell => PreparedStatement.bindDate index cell
  | time cell => PreparedStatement.bindTime index cell
  | timestamp cell => PreparedStatement.bindTimestamp index cell

/-- What a session is asked to do. -/
inductive Step
  | openDatabase (name : String) (opening : Opening)
  | close (name : String)
  | query (name sql : String) (options : QueryOptions) (keep : Option String)
  | result (name : String)
  | fetch (name : String)
  | closeResult (name : String)
  | prepare (name sql keep : String)
  | bind (statement : String) (index : Nat) (binding : Binding)
  | execute (statement : String) (options : QueryOptions) (keep : Option String)
  | dropStatement (name : String)
  | autocommit (name : String)
  | setAutocommit (name : String) (enabled : Bool)
  | lastError (name : String)
  | counters
  | describe (name result statement : String)
  | isNative (name sql : String)
  | nullHandle (name : String)
  | nullValue (name : String) (type : ColumnType)
  | openClose (layout : TagLayout) (address : Option String) (options : Option NativeOptions)
  | probe (layout : TagLayout) (probe : Probe)

/-- What a result shows before it is fetched. -/
structure ResultHead where
  name : Option String
  columns : Nat
  rows : Nat
  lastId : Int

/-- What a successful step answers. -/
inductive Answer
  | nothing
  | layout (layout : TagLayout)
  | updated (count : UpdateCount)
  /-- Rows, with the columns unless the result was kept. -/
  | rows (head : ResultHead) (data : Option (Except Error Columns))
  | columns (columns : Columns)
  | prepared (types : List ColumnType) (metadata : Metadata)
  | truth (truth : Bool)
  | text (content : Option String)
  | counters (counters : Counters)
  | description (database api : String) (result statement : Option String)
  /-- Whether an error came from the engine; none if there was no error. -/
  | verdict (native : Option Bool)
  | datum (datum : NativeDatum)
  | probe (answer : ProbeAnswer)

/-- What a step answers. -/
inductive Observation
  /-- A name stands for nothing of this kind. -/
  | missing (resource : Resource)
  | outcome (answer : Except Error Answer)

end ColumnStore
