import ColumnStore.Session.Step

/-!
# Sessions

A session keeps databases, results and statements under names and works on them step by
step. Every step answers what a caller sees of it. A name that is taken again gives up what
it stood for: a database is closed before the new one is opened, with all that was kept of
it; a result or a statement is released after the new one is there. At the end of a session
the results are released first, then the statements, then the databases.
-/

set_option autoImplicit false

namespace ColumnStore

/-- Things kept under names. -/
abbrev Named (α : Type) := List (String × α)

namespace Named

variable {α : Type}

/-- What a name stands for. -/
def find? (kept : Named α) (name : String) : Option α :=
  List.lookup name kept

/-- Forget a name. -/
def remove (kept : Named α) (name : String) : Named α :=
  kept.filter fun entry => entry.1 ≠ name

/-- Keep something under a name, instead of what it stood for. -/
def put (kept : Named α) (name : String) (thing : α) : Named α :=
  (name, thing) :: remove kept name

end Named

/-- Something kept of a database, by the name of the database. -/
structure Owned (α : Type) where
  owner : String
  thing : α

/-- A session in progress. -/
structure Session where
  backend : Backend
  connections : Named (Connection Backend)
  results : Named (Owned (ResultSet Backend))
  statements : Named (Owned (PreparedStatement Backend))

namespace Session

/-- Nothing has been opened. -/
def empty : Session :=
  ⟨Backend.empty, [], [], []⟩

/-- An action on a session. -/
abbrev Action := StateM Session

/-- Run a call on the state of the library. -/
def call {α : Type} (call : Call Backend α) : Action (Except Error α) := fun session =>
  let (outcome, backend) := call session.backend
  (outcome, { session with backend })

/-- Run a call whose outcome is of no interest. -/
def ignore {α : Type} (call : Call Backend α) : Action Unit := do
  let _ ← Session.call call

/-- Answer the outcome of a call. -/
def respond {α : Type} (answer : α → Answer) (call : Call Backend α) : Action Observation := do
  return .outcome (answer <$> (← Session.call call))

/-- Go on with the database a name stands for. -/
def onConnection (name : String) (go : Connection Backend → Action Observation) :
    Action Observation := do
  match Named.find? (← get).connections name with
  | some connection => go connection
  | none => return .missing .database

/-- Go on with the result a name stands for. -/
def onResult (name : String) (go : Owned (ResultSet Backend) → Action Observation) :
    Action Observation := do
  match Named.find? (← get).results name with
  | some result => go result
  | none => return .missing .result

/-- Go on with the statement a name stands for. -/
def onStatement (name : String) (go : Owned (PreparedStatement Backend) → Action Observation) :
    Action Observation := do
  match Named.find? (← get).statements name with
  | some statement => go statement
  | none => return .missing .statement

/-! ## Releasing -/

/-- Release the results that are kept and pass a test. -/
def dropResults (test : Owned (ResultSet Backend) → Bool) : Action Unit := do
  let (dropped, kept) := (← get).results.partition fun entry => test entry.2
  modify fun session => { session with results := kept }
  dropped.forM fun entry => ignore entry.2.thing.close

/-- Release the statements that are kept and pass a test. -/
def dropStatements (test : Owned (PreparedStatement Backend) → Bool) : Action Unit := do
  let (dropped, kept) := (← get).statements.partition fun entry => test entry.2
  modify fun session => { session with statements := kept }
  dropped.forM fun entry => ignore entry.2.thing.release

/-- Close the database a name stands for, after releasing what was kept of it. -/
def closeNamed (name : String) (connection : Connection Backend) :
    Action (Except Error Unit) := do
  dropResults (·.owner = name)
  dropStatements (·.owner = name)
  modify fun session => { session with connections := Named.remove session.connections name }
  call connection.close

/-! ## Opening -/

/-- Open a database under a name. -/
def openNamed (name : String) (opening : Opening) : Action Observation := do
  match Named.find? (← get).connections name with
  | some connection => let _ ← closeNamed name connection
  | none => pure ()
  match ← call opening.connect with
  | .ok connection =>
      modify fun session =>
        { session with connections := Named.put session.connections name connection }
      return .outcome (.ok (.layout connection.api.layout))
  | .error error => return .outcome (.error error)

/-! ## Results -/

/-- What a result shows before it is fetched. -/
def head (result : ResultSet Backend) : ResultHead :=
  ⟨result.name, result.columnCount, result.rowCount, result.native.header.lastId⟩

/-- Keep a result under a name, and release the one the name stood for. -/
def keepResult (name owner : String) (result : ResultSet Backend) : Action Unit := do
  let replaced := Named.find? (← get).results name
  modify fun session =>
    { session with results := Named.put session.results name ⟨owner, result⟩ }
  match replaced with
  | some replaced => ignore replaced.thing.close
  | none => pure ()

/-- Answer what a statement produced. Rows are fetched and released, or kept. -/
def answerOutcome (owner : String) (keep : Option String)
    (outcome : Except Error (Outcome Backend)) : Action Observation := do
  match outcome with
  | .error error => return .outcome (.error error)
  | .ok (.updated count) => return .outcome (.ok (.updated count))
  | .ok (.rows result) =>
      match keep with
      | some name =>
          keepResult name owner result
          return .outcome (.ok (.rows (head result) none))
      | none =>
          let data ← call result.fetchAll
          ignore result.close
          return .outcome (.ok (.rows (head result) (some data)))

/-- Fetch a kept result. -/
def fetchNamed (name : String) (kept : Owned (ResultSet Backend)) : Action Observation := do
  modify fun session =>
    { session with
      results := Named.put session.results name { kept with thing := kept.thing.markFetched } }
  respond .columns kept.thing.fetchAll

/-- Release a kept result, reporting a failure. -/
def closeResultNamed (name : String) (kept : Owned (ResultSet Backend)) : Action Observation := do
  modify fun session => { session with results := Named.remove session.results name }
  respond (fun _ => .nothing) kept.thing.close

/-! ## Statements -/

/-- Prepare a statement and keep it under a name, releasing the one the name stood for. -/
def prepareNamed (owner sql name : String) (connection : Connection Backend) :
    Action Observation := do
  match ← call (connection.prepare sql) with
  | .error error => return .outcome (.error error)
  | .ok statement =>
      let replaced := Named.find? (← get).statements name
      modify fun session =>
        { session with statements := Named.put session.statements name ⟨owner, statement⟩ }
      match replaced with
      | some replaced => ignore replaced.thing.release
      | none => pure ()
      return .outcome (.ok (.prepared statement.types statement.metadata))

/-- Bind a parameter of a kept statement. -/
def bindNamed (name : String) (index : Nat) (binding : Binding)
    (kept : Owned (PreparedStatement Backend)) : Action Observation := fun session =>
  let ((outcome, bound), backend) := binding.update index kept.thing session.backend
  (.outcome ((fun _ => Answer.nothing) <$> outcome),
    { session with
      backend
      statements := Named.put session.statements name { kept with thing := bound } })

/-! ## Other steps -/

/-- Open another handle with the API of a database, ask for the datum reserved for NULL,
and close the handle. -/
def nullOf (connection : Connection Backend) (type : ColumnType) : Call Backend NativeDatum := do
  let api := connection.api
  let handle ← api.openDatabase none none
  let datum ← tryCatch (api.nullValue handle type) (Api.abandon (api.closeDatabase handle))
  Api.attempt (api.closeDatabase handle)
  return datum

/-- Open a database of the engine through the table alone, and close it. -/
def openAndClose (layout : TagLayout) (address : Option String)
    (options : Option NativeOptions) : Call Backend Unit := do
  let api := Api.ofTable (Backend.engineTable layout) layout
  let address ← Api.settle (Connection.terminated? address)
  api.closeDatabase (← api.openDatabase address options)

/-- Whether a statement fails with an error of the engine. A result is released. -/
def verdict (connection : Connection Backend) (sql : String) : Action Observation := do
  match ← call (connection.query sql ⟨false, 0⟩) with
  | .error error => return .outcome (.ok (.verdict (some error.isNative)))
  | .ok (.updated _) => return .outcome (.ok (.verdict none))
  | .ok (.rows result) =>
      ignore result.close
      return .outcome (.ok (.verdict none))

/-- Run an action of the library as it is. -/
def direct {α : Type} (answer : α → Answer) (action : StateM Backend α) : Action Observation :=
  fun session =>
    let (content, backend) := action session.backend
    (.outcome (.ok (answer content)), { session with backend })

/-- Do a step. -/
def step : Step → Action Observation
  | .openDatabase name opening => openNamed name opening
  | .close name =>
      onConnection name fun connection => do
        return .outcome ((fun _ => .nothing) <$> (← closeNamed name connection))
  | .query name sql options keep =>
      onConnection name fun connection => do
        answerOutcome name keep (← call (connection.query sql options))
  | .result name =>
      onResult name fun kept => return .outcome (.ok (.rows (head kept.thing) none))
  | .fetch name => onResult name (fetchNamed name)
  | .closeResult name => onResult name (closeResultNamed name)
  | .prepare name sql keep => onConnection name (prepareNamed name sql keep)
  | .bind name index binding => onStatement name (bindNamed name index binding)
  | .execute name options keep =>
      onStatement name fun kept => do
        answerOutcome kept.owner keep (← call (kept.thing.execute options))
  | .dropStatement name =>
      onStatement name fun kept => do
        modify fun session =>
          { session with statements := Named.remove session.statements name }
        ignore kept.thing.release
        return .outcome (.ok .nothing)
  | .autocommit name => onConnection name fun connection => respond .truth connection.autocommit
  | .setAutocommit name enabled =>
      onConnection name fun connection =>
        respond (fun _ => .nothing) (connection.setAutocommit enabled)
  | .lastError name => onConnection name fun connection => direct .text connection.lastError
  | .counters => fun session =>
      (.outcome (.ok (.counters session.backend.engine.counters)), session)
  | .describe name result statement =>
      onConnection name fun connection => do
        let session ← get
        let result := (Named.find? session.results result).map (·.thing.description)
        let statement := (Named.find? session.statements statement).map (·.thing.description)
        return .outcome (.ok (.description connection.description connection.api.description
          result statement))
  | .isNative name sql => onConnection name fun connection => verdict connection sql
  | .nullHandle name =>
      onConnection name fun connection =>
        direct (fun text => .text (text.map NativeText.toString))
          (connection.api.table.lastError none)
  | .nullValue name type =>
      onConnection name fun connection => respond .datum (nullOf connection type)
  | .openClose layout address options =>
      respond (fun _ => .nothing) (openAndClose layout address options)
  | .probe layout probe =>
      direct .probe (Backend.onEngine (probe.run layout))

/-- Release everything that is kept. -/
def finish : Action Unit := do
  dropResults fun _ => true
  dropStatements fun _ => true
  (← get).connections.forM fun entry => ignore entry.2.close

/-- Do steps one after the other from an empty session. The answers are given with the
counters after everything was released. -/
def run (steps : List Step) : List Observation × Counters :=
  let (answers, session) := steps.mapM step empty
  (answers, (finish session).2.backend.engine.counters)

end Session

end ColumnStore
