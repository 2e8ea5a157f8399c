import ColumnStore.Engine
import ColumnStore.Sql.Parser

/-!
# The engine behind the function table

Every entry point of the engine as an action on its objects. A handle that is missing or
stale is answered with a fixed text; any other failure is recorded in the database it
concerns. Where a caller passes a place for an answer, that place may be missing too: the
arguments named `place` and `wanted` say whether it is there.
-/

set_option autoImplicit false

namespace ColumnStore.Engine

/-- The answers for handles that lead nowhere. -/
def invalid (resource : Resource) : NativeText :=
  NativeText.ofStringOrEmpty <|
    match resource with
    | .database => "invalid database handle"
    | .result => "invalid result handle"
    | .statement => "invalid statement handle"

/-! ## Databases -/

/-- What is wrong with the arguments of opening a database: a remote address, a negative
number, or options for a server. -/
def refusal? (url : Option NativeText) (options : Option NativeOptions) : Option Failure :=
  let address := (url.map NativeText.toString).getD ""
  if address.startsWith "mapi:" then some (.remoteDatabase address)
  else
    match options with
    | none => none
    | some options =>
        let limits := [("memorylimit", options.memoryLimit.val),
          ("querytimeout", options.queryTimeout.val),
          ("sessiontimeout", options.sessionTimeout.val), ("nr_threads", options.threads.val)]
        match limits.find? fun limit => limit.2 < 0 with
        | some (option, given) => some (.negativeOption option given)
        | none => if options.remote || options.listener then some .remoteOptions else none

/-- Open a database. One that is refused is handed out all the same, with the reason as
its last error. -/
def openDatabase (layout : TagLayout) (place : Bool) (url : Option NativeText)
    (options : Option NativeOptions) : StateM Engine (Int32 × Option (Handle .database)) :=
  fun engine =>
    if !place then ((-1, none), engine)
    else
      let database := Database.new layout
      match refusal? url options with
      | none =>
          let (handle, engine) := engine.addDatabase database
          ((0, some handle), engine)
      | some failure =>
          let (handle, engine) := engine.addDatabase (database.fail failure).2
          ((-2, some handle), engine)

/-- Close a database. -/
def closeDatabase (given : Option (Handle .database)) : StateM Engine Int32 := fun engine =>
  match given with
  | none => (-1, engine)
  | some handle => (0, engine.removeDatabase handle)

/-- The text of the latest failure of a database. -/
def lastError (given : Option (Handle .database)) : StateM Engine (Option NativeText) :=
  fun engine =>
    match engine.database? given with
    | some database => (database.lastError, engine)
    | none => (some (invalid .database), engine)

/-- Go on with the database behind a handle. -/
def onDatabase {α : Type} (given : Option (Handle .database))
    (go : Handle .database → Database → StateM Engine (Reply α)) : StateM Engine (Reply α) :=
  fun engine =>
    match given, engine.database? given with
    | some handle, some database => go handle database engine
    | _, _ => (.error (invalid .database), engine)

/-- Fail, with the reason recorded in a database. -/
def refuse {α : Type} (handle : Handle .database) (database : Database) (failure : Failure) :
    StateM Engine (Reply α) := fun engine =>
  let (text, engine) := engine.fail handle database failure
  (.error text, engine)

/-- Whether every statement is its own transaction. -/
def getAutocommit (given : Option (Handle .database)) (place : Bool) :
    StateM Engine (Reply Int32) :=
  onDatabase given fun handle database =>
    if !place then refuse handle database (.missingArgument .getAutocommit "result")
    else pure (.ok (if database.autocommit then 1 else 0))

/-- Make every statement its own transaction, or not. -/
def setAutocommit (given : Option (Handle .database)) (value : Int32) :
    StateM Engine (Reply Unit) :=
  onDatabase given fun handle database engine =>
    (.ok (), engine.setDatabase handle { database with autocommit := value ≠ 0 })

/-! ## Queries and results -/

/-- Hand out the effect of a statement: its result if there is one and a place for it, and
the number of rows it returns or affects. -/
def handOut (effect : Effect) (wanted : Bool) : StateM Engine (Reply Executed) := fun engine =>
  let (result, affected) : Option NativeResult × Int :=
    match effect with
    | .rows result => (some result, result.header.rowCount)
    | .schema => (some NativeResult.withoutColumns, 0)
    | .affected count => (none, count)
  match result, wanted with
  | some result, true =>
      let (handed, engine) := engine.addResult result
      (.ok ⟨some handed, affected⟩, engine)
  | _, _ => (.ok ⟨none, affected⟩, engine)

/-- Run a statement on a database and hand out its effect. -/
def run (handle : Handle .database) (database : Database) (wanted : Bool)
    (attempt : Except Failure (Database × Effect)) : StateM Engine (Reply Executed) :=
  match attempt with
  | .ok (changed, effect) => fun engine =>
      handOut effect wanted (engine.setDatabase handle changed)
  | .error failure => refuse handle database failure

/-- Run the statement a text spells. -/
def query (given : Option (Handle .database)) (text : Option NativeText) (wanted : Bool) :
    StateM Engine (Reply Executed) :=
  onDatabase given fun handle database =>
    match text with
    | none => refuse handle database (.missingQuery .query)
    | some text =>
        run handle database wanted do
          database.execute (← Statement.parse text.toString) []

/-- Hand out a column of a result. -/
def resultFetch (given : Option (Handle .result)) (place : Bool) (index : Nat) :
    StateM Engine (Reply (Option LiveColumn)) := fun engine =>
  match given, engine.result? given with
  | some handle, some result =>
      let failed (failure : Failure) := NativeText.ofStringOrEmpty failure.message
      if !place then (.error (failed (.missingArgument .resultFetch "res")), engine)
      else
        match result.columns[index]? with
        | some descriptor => (.ok (some ⟨handle, index, descriptor⟩), engine.countFetch)
        | none => (.error (failed (.noSuchColumn index result.columns.length)), engine)
  | _, _ => (.error (invalid .result), engine)

/-- Write the cells of a column that was handed out. -/
def writeCells (column : LiveColumn) (cells : ColumnCells) : StateM Engine Unit :=
  fun engine =>
    ((), engine.modifyColumns column.result
      (·.modify column.index fun descriptor => { descriptor with cells }))

/-- Release a result. -/
def cleanupResult (given : Option (Handle .database)) (result : Option (Handle .result)) :
    StateM Engine (Reply Unit) :=
  onDatabase given fun handle database =>
    match result with
    | none => refuse handle database (.missingArgument .cleanupResult "result")
    | some result => fun engine => (.ok (), engine.removeResult result)

/-! ## Prepared statements -/

/-- Prepare the statement a text spells. -/
def prepare (given : Option (Handle .database)) (text : Option NativeText) (place : Bool)
    (wanted : Bool) : StateM Engine (Reply Prepared) :=
  onDatabase given fun handle database =>
    if !place then refuse handle database (.missingArgument .prepare "stmt")
    else
      match text with
      | none => refuse handle database (.missingQuery .prepare)
      | some text =>
          let attempt := do
            database.prepare handle (← Statement.parse text.toString)
          match attempt with
          | .error failure => refuse handle database failure
          | .ok prepared => fun engine =>
              let (statement, engine) := engine.addStatement prepared.stored prepared.tags
              if wanted then
                let (description, engine) := engine.addResult prepared.description
                (.ok ⟨some statement, some description⟩, engine)
              else (.ok ⟨some statement, none⟩, engine)

/-- Go on with the statement behind a handle and its database. -/
def onStatement {α : Type} (given : Option (Handle .statement))
    (go : Handle .statement → StoredStatement → Database → StateM Engine (Reply α)) :
    StateM Engine (Reply α) := fun engine =>
  match given, engine.statement? given with
  | some handle, some stored =>
      match engine.database? (some stored.database) with
      | some database => go handle stored database engine
      | none => (.error (invalid .database), engine)
  | _, _ => (.error (invalid .statement), engine)

/-- Bind a datum to a parameter. -/
def bind (given : Option (Handle .statement)) (datum : Option NativeDatum) (index : Nat) :
    StateM Engine (Reply Unit) :=
  onStatement given fun handle stored database =>
    match stored.bind datum index with
    | .ok bound => fun engine => (.ok (), engine.setStatement handle bound)
    | .error failure => refuse stored.database database failure

/-- Run a prepared statement with the values bound to it. -/
def execute (given : Option (Handle .statement)) (wanted : Bool) :
    StateM Engine (Reply Executed) :=
  onStatement given fun _ stored database =>
    run stored.database database wanted do
      database.execute stored.statement (← stored.values)

/-- Release a statement. -/
def cleanupStatement (given : Option (Handle .database))
    (statement : Option (Handle .statement)) : StateM Engine (Reply Unit) :=
  onDatabase given fun handle database =>
    match statement with
    | none => refuse handle database (.missingArgument .cleanupStatement "stmt")
    | some statement => fun engine => (.ok (), engine.removeStatement statement)

/-- The datum reserved for NULL in the type with a tag. -/
def nullValue (given : Option (Handle .database)) (tag : Int32) :
    StateM Engine (Except Error (Option NativeDatum)) := fun engine =>
  (match engine.database? given with
    | none => .ok none
    | some database => (·.bind NativeDatum.sentinel?) <$> database.layout.decode? tag, engine)

/-- The engine as a library, with every place for an answer given. -/
def functionTable (layout : TagLayout) : FunctionTable Engine where
  openDatabase := openDatabase layout true
  closeDatabase := closeDatabase
  lastError := lastError
  getAutocommit database := getAutocommit database true
  setAutocommit := setAutocommit
  query database text := query database text true
  resultFetch result index := resultFetch result true index
  cleanupResult := cleanupResult
  prepare database text := prepare database text true true
  bind := bind
  execute statement := execute statement true
  cleanupStatement := cleanupStatement
  nullValue := nullValue
  writeCells := writeCells

end ColumnStore.Engine
