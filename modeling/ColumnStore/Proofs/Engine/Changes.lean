import ColumnStore.Proofs.Engine.Reachable
import Mathlib.Logic.Relation

/-!
# Elementary changes

A request makes a few elementary changes to the engine, or none: an object is added, replaced or
released, or a fetch is counted. A result is written to or released only if the request names it,
and a statement is replaced or released only if the request names it. A database is only replaced
by what a statement makes of it that the request runs (`Request.Runs`), or by one of the same layout
with the same tables; a statement is only replaced by what binding makes of it. What each
elementary change keeps is therefore kept by every request.

Main results: `changes_perform` and `perform_property`.
-/

set_option autoImplicit false

namespace ColumnStore

namespace Engine

/-- A request runs a statement with certain parameters on the database behind a handle. -/
inductive Request.Runs (engine : Engine) :
    Request → Handle .database → Statement → List Value → Prop
  | query {home : Handle .database} {text : NativeText} {wanted : Bool} {statement : Statement}
      (read : Statement.parse text.toString = .ok statement) :
      Runs engine (.query (some home) (some text) wanted) home statement []
  | execute {handle : Handle .statement} {wanted : Bool} {stored : StoredStatement}
      {values : List Value} (known : engine.statement? (some handle) = some stored)
      (bound : stored.values = .ok values) :
      Runs engine (.execute (some handle) wanted) stored.database stored.statement values

/-- An elementary change that a request makes which came to the engine at the start. -/
inductive Change (request : Request) (start : Engine) : Engine → Engine → Prop
  | addDatabase {engine : Engine} {database : Database}
      (empty : database.catalog = Catalog.empty) :
      Change request start engine (engine.addDatabase database).2
  /-- Nothing but the tables changes, and nothing was changed before. -/
  | runStatement {home : Handle .database} {database changed : Database} {statement : Statement}
      {parameters : List Value} {effect : Effect}
      (found : start.database? (some home) = some database)
      (runs : request.Runs start home statement parameters)
      (executed : database.execute statement parameters = .ok (changed, effect)) :
      Change request start start (start.setDatabase home changed)
  /-- The tables stay. -/
  | setDatabase {engine : Engine} {home : Handle .database} {database changed : Database}
      (found : engine.database? (some home) = some database)
      (layout : changed.layout = database.layout) (catalog : changed.catalog = database.catalog) :
      Change request start engine (engine.setDatabase home changed)
  | removeDatabase {engine : Engine} {handle : Handle .database}
      (asked : request = .closeDatabase (some handle)) :
      Change request start engine (engine.removeDatabase handle)
  | addResult {engine : Engine} (result : NativeResult) :
      Change request start engine (engine.addResult result).2
  | writeCells {engine : Engine} {column : LiveColumn} {cells : ColumnCells}
      (asked : request = .writeCells column cells) :
      Change request start engine (engine.modifyColumns column.result
        (·.modify column.index fun descriptor => { descriptor with cells }))
  | removeResult {engine : Engine} {given : Option (Handle .database)} {handle : Handle .result}
      (asked : request = .cleanupResult given (some handle)) :
      Change request start engine (engine.removeResult handle)
  | countFetch {engine : Engine} : Change request start engine engine.countFetch
  | addStatement {engine : Engine} (stored : StoredStatement) (tags : List Int32) :
      Change request start engine (engine.addStatement stored tags).2
  | setStatement {engine : Engine} {handle : Handle .statement} {datum : Option NativeDatum}
      {index : Nat} {stored bound : StoredStatement}
      (asked : request = .bind (some handle) datum index)
      (known : engine.statement? (some handle) = some stored)
      (accepted : stored.bind datum index = .ok bound) :
      Change request start engine (engine.setStatement handle bound)
  | removeStatement {engine : Engine} {given : Option (Handle .database)}
      {handle : Handle .statement} (asked : request = .cleanupStatement given (some handle)) :
      Change request start engine (engine.removeStatement handle)

/-- One elementary change after the other. -/
abbrev Changes (request : Request) (start later : Engine) : Prop :=
  Relation.ReflTransGen (Change request start) start later

section Changes

variable {α : Type} {request : Request} {engine : Engine} {home : Handle .database}
  {database : Database}

/-- A failure is recorded in a database. -/
theorem changes_refuse (found : engine.database? (some home) = some database)
    (failure : Failure) :
    Changes request engine (refuse (α := α) home database failure engine).2 :=
  .single (.setDatabase found rfl rfl)

/-- The tables are replaced, and then the result is handed out. -/
theorem changes_run (found : engine.database? (some home) = some database) (wanted : Bool)
    {attempt : Except Failure (Database × Effect)}
    (made : ∀ changed effect, attempt = .ok (changed, effect) → ∃ statement parameters,
      request.Runs engine home statement parameters ∧
        database.execute statement parameters = .ok (changed, effect)) :
    Changes request engine (run home database wanted attempt engine).2 := by
  cases attempt with
  | ok answer =>
      obtain ⟨changed, effect⟩ := answer
      obtain ⟨statement, parameters, runs, executed⟩ := made changed effect rfl
      refine .head (.runStatement found runs executed) ?_
      show Relation.ReflTransGen _ _ (handOut effect wanted (engine.setDatabase home changed)).2
      unfold handOut
      cases effect <;> cases wanted <;> first | exact .refl | exact .single (.addResult _)
  | error failure => exact changes_refuse found failure

/-- **A request makes elementary changes only.** -/
theorem changes_perform (request : Request) (engine : Engine) :
    Changes request engine (request.perform engine) := by
  cases request with
  | openDatabase layout place url options =>
      simp only [Request.perform, openDatabase]
      split
      · exact .refl
      · split <;> exact .single (.addDatabase rfl)
  | closeDatabase given =>
      cases given with
      | none => exact .refl
      | some handle => exact .single (.removeDatabase rfl)
  | lastError given =>
      simp only [Request.perform, lastError]
      split <;> exact .refl
  | getAutocommit given place =>
      apply onDatabase_property (Changes _ engine) .refl
      intro home database found
      split
      · exact changes_refuse found _
      · exact .refl
  | setAutocommit given value =>
      apply onDatabase_property (Changes _ engine) .refl
      intro home database found
      exact .single (.setDatabase found rfl rfl)
  | query given text wanted =>
      cases given with
      | none => exact .refl
      | some home =>
          cases found : engine.database? (some home) with
          | none =>
              simp only [Request.perform, query, onDatabase, found]
              exact .refl
          | some database =>
              simp only [Request.perform, query, onDatabase, found]
              cases text with
              | none => exact changes_refuse found _
              | some text =>
                  apply changes_run found
                  intro changed effect executed
                  obtain ⟨statement, read, executed⟩ := Except.bind_eq_ok.1 executed
                  exact ⟨statement, [], .query read, executed⟩
  | resultFetch given place index =>
      simp only [Request.perform, resultFetch]
      split
      · split
        · exact .refl
        · split
          · exact .single .countFetch
          · exact .refl
      · exact .refl
  | writeCells column cells => exact .single (.writeCells rfl)
  | cleanupResult given handle =>
      apply onDatabase_property (Changes _ engine) .refl
      intro home database found
      cases handle with
      | none => exact changes_refuse found _
      | some handle => exact .single (.removeResult rfl)
  | prepare given text place wanted =>
      apply onDatabase_property (Changes _ engine) .refl
      intro home database found
      split
      · exact changes_refuse found _
      · cases text with
        | none => exact changes_refuse found _
        | some text =>
            dsimp only
            cases (do database.prepare home (← Statement.parse text.toString)) with
            | error failure => exact changes_refuse found failure
            | ok preparation =>
                cases wanted with
                | true =>
                    exact .head (.addStatement preparation.stored preparation.tags)
                      (.single (.addResult preparation.description))
                | false => exact .single (.addStatement preparation.stored preparation.tags)
  | bind given datum index =>
      cases given with
      | none => exact .refl
      | some handle =>
          cases known : engine.statement? (some handle) with
          | none =>
              simp only [Request.perform, bind, onStatement, known]
              exact .refl
          | some stored =>
              simp only [Request.perform, bind, onStatement, known]
              split
              · next database found =>
                  cases accepted : stored.bind datum index with
                  | ok bound => exact .single (.setStatement rfl known accepted)
                  | error failure => exact changes_refuse found failure
              · exact .refl
  | execute given wanted =>
      cases given with
      | none => exact .refl
      | some handle =>
          cases known : engine.statement? (some handle) with
          | none =>
              simp only [Request.perform, execute, onStatement, known]
              exact .refl
          | some stored =>
              simp only [Request.perform, execute, onStatement, known]
              split
              · next database found =>
                  apply changes_run found
                  intro changed effect executed
                  obtain ⟨values, bound, executed⟩ := Except.bind_eq_ok.1 executed
                  exact ⟨stored.statement, values, .execute known bound, executed⟩
              · exact .refl
  | cleanupStatement given handle =>
      apply onDatabase_property (Changes _ engine) .refl
      intro home database found
      cases handle with
      | none => exact changes_refuse found _
      | some handle => exact .single (.removeStatement rfl)
  | nullValue given tag => exact .refl

/-- **What every elementary change of a request keeps is kept by the request.** -/
theorem perform_property (property : Engine → Prop)
    (each : ∀ before after, property before → Change request engine before after → property after)
    (holds : property engine) : property (request.perform engine) := by
  have changes := changes_perform request engine
  generalize request.perform engine = later at changes
  induction changes with
  | refl => exact holds
  | tail _ change ih => exact each _ _ ih change

end Changes

end Engine

end ColumnStore
