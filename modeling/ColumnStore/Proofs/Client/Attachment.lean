import ColumnStore.Proofs.Client.Counters
import ColumnStore.Proofs.Engine.LastErrors
import ColumnStore.Proofs.Engine.Lending

/-!
# What is held was given out

A result that a caller holds was given out by the engine with this header, and a statement as a
statement of this database (`Holding.Attached`). Whatever the engine is asked for, it remembers
what it gave its handles out for (`Engine.Remembers`), and what an action makes was given out just
then. That the objects are still there is another matter, which depends on what else is owed.

Main results: `Action.remembers_perform` and `Action.attached_perform`.
-/

set_option autoImplicit false

namespace ColumnStore

namespace Engine

/-- What handles were given out for before, they were given out for after. -/
structure Remembers (before after : Engine) : Prop where
  headed : ∀ handle header, before.Headed handle header → after.Headed handle header
  preparedOn : ∀ handle home, before.PreparedOn handle home → after.PreparedOn handle home

theorem Remembers.refl (engine : Engine) : engine.Remembers engine :=
  ⟨fun _ _ => id, fun _ _ => id⟩

theorem Remembers.perform {before engine : Engine} (remembers : before.Remembers engine)
    (request : Request) : before.Remembers (request.perform engine) :=
  ⟨fun handle header headed => headed_perform (remembers.headed handle header headed) request,
    fun handle home prepared =>
      preparedOn_perform (remembers.preparedOn handle home prepared) request⟩

/-- Rows that a statement is answered with are a result that the engine keeps. -/
theorem shows_of_run {home : Handle .database} {database : Database}
    {attempt : Except Failure (Database × Effect)} {engine reached : Engine} {executed : Executed}
    {live : LiveResult} (ran : run home database true attempt engine = (.ok executed, reached))
    (rows : executed.result = some live) : reached.Shows live := by
  cases attempt with
  | error failure => cases ran
  | ok answer =>
      obtain ⟨changed, effect⟩ := answer
      cases effect with
      | affected count =>
          cases ran
          cases rows
      | rows result | schema =>
          cases ran
          cases rows
          exact ⟨_, result?_addResult_self _ _, rfl⟩

theorem Shows.headed {engine : Engine} {live : LiveResult} (shows : engine.Shows live) :
    engine.Headed live.handle live.header := by
  obtain ⟨native, kept, same⟩ := shows
  exact given_of_follow kept same

end Engine

theorem Connection.headed_of_query {connection : Connection Engine}
    (inProcess : connection.InProcess) {text : String} {options : QueryOptions}
    {result : ResultSet Engine} {engine final : Engine}
    (answered : connection.query text options engine = (.ok (.rows result), final)) :
    final.Headed result.native.handle result.native.header := by
  obtain ⟨sent, middle, _, answered⟩ := Call.bind_eq_ok.1 answered
  obtain ⟨executed, reached, called, answered⟩ := Call.bind_eq_ok.1 answered
  obtain ⟨rows, _, _, rfl⟩ := Outcome.ofExecuted_rows answered
  have ran := Api.check_eq_ok.1 called
  rw [inProcess] at ran
  change Engine.query (some connection.handle) (some sent) true middle = _ at ran
  cases found : middle.database? (some connection.handle) with
  | none =>
      simp only [Engine.query, Engine.onDatabase, found] at ran
      cases ran
  | some database =>
      simp only [Engine.query, Engine.onDatabase, found] at ran
      exact (Engine.shows_of_run ran rows).headed

theorem PreparedStatement.headed_of_execute {statement : PreparedStatement Engine}
    (inProcess : statement.connection.InProcess) {options : QueryOptions}
    {result : ResultSet Engine} {engine final : Engine}
    (answered : statement.execute options engine = (.ok (.rows result), final)) :
    final.Headed result.native.handle result.native.header := by
  obtain ⟨executed, reached, called, answered⟩ := Call.bind_eq_ok.1 answered
  obtain ⟨rows, _, _, rfl⟩ := Outcome.ofExecuted_rows answered
  have ran := Api.check_eq_ok.1 called
  rw [inProcess] at ran
  change Engine.execute (some statement.handle) true engine = _ at ran
  cases known : engine.statement? (some statement.handle) with
  | none =>
      simp only [Engine.execute, Engine.onStatement, known] at ran
      cases ran
  | some stored =>
      cases found : engine.database? (some stored.database) with
      | none =>
          simp only [Engine.execute, Engine.onStatement, known, found] at ran
          cases ran
      | some database =>
          simp only [Engine.execute, Engine.onStatement, known, found] at ran
          exact (Engine.shows_of_run ran rows).headed

namespace Holding

/-- What is held was given out by the engine for what it is held as. -/
structure Attached (holding : Holding Engine) (engine : Engine) : Prop where
  inProcess : holding.connection.InProcess
  headed : ∀ result ∈ holding.results,
    engine.Headed result.native.handle result.native.header
  preparedOn : ∀ statement ∈ holding.statements,
    engine.PreparedOn statement.handle holding.connection.handle

variable {holding : Holding Engine} {engine later : Engine} {α : Type}

theorem Attached.mono (attached : holding.Attached engine) (remembers : engine.Remembers later) :
    holding.Attached later :=
  ⟨attached.inProcess, fun result member => remembers.headed _ _ (attached.headed result member),
    fun statement member => remembers.preparedOn _ _ (attached.preparedOn statement member)⟩

theorem Attached.keep (attached : holding.Attached engine) {outcome : Outcome Engine}
    (handed : ∀ result, outcome = .rows result →
      engine.Headed result.native.handle result.native.header) :
    (holding.keep outcome).Attached engine := by
  cases outcome with
  | updated count => exact attached
  | rows result =>
      refine ⟨attached.inProcess, fun kept member => ?_, attached.preparedOn⟩
      rcases List.mem_append.1 member with earlier | new
      · exact attached.headed kept earlier
      · exact handed kept (congrArg Outcome.rows (List.mem_singleton.1 new).symm)

theorem Attached.setStatement (attached : holding.Attached engine) {position : Nat}
    {statement changed : PreparedStatement Engine}
    (found : holding.statements[position]? = some statement)
    (same : changed.handle = statement.handle) :
    Attached { holding with statements := holding.statements.set position changed } engine := by
  refine ⟨attached.inProcess, attached.headed, fun kept member => ?_⟩
  rcases List.mem_or_eq_of_mem_set member with earlier | rfl
  · exact attached.preparedOn kept earlier
  · rw [same]
    exact attached.preparedOn statement (List.mem_of_getElem? found)

theorem attached_calling {call : Call Engine α} {take : α → Holding Engine}
    (attached : holding.Attached (holding.calling call take engine).2)
    (taken : ∀ answer final, call engine = (.ok answer, final) → holding.Attached final →
      (take answer).Attached final) :
    (holding.calling call take engine).1.Attached (holding.calling call take engine).2 := by
  unfold calling at attached ⊢
  split at attached
  · next answered => exact taken _ _ answered attached
  · exact attached

theorem attached_onResult {position : Nat} {go : ResultSet Engine → StateM Engine (Holding Engine)}
    (attached : holding.Attached (holding.onResult position go engine).2)
    (each : ∀ result, holding.results[position]? = some result →
      holding.Attached (go result engine).2 → (go result engine).1.Attached (go result engine).2) :
    (holding.onResult position go engine).1.Attached (holding.onResult position go engine).2 := by
  unfold onResult at attached ⊢
  cases found : holding.results[position]? with
  | none =>
      rw [found] at attached
      exact attached
  | some result =>
      rw [found] at attached
      exact each result found attached

theorem attached_onStatement {position : Nat}
    {go : PreparedStatement Engine → StateM Engine (Holding Engine)}
    (attached : holding.Attached (holding.onStatement position go engine).2)
    (each : ∀ statement, holding.statements[position]? = some statement →
      holding.Attached (go statement engine).2 →
        (go statement engine).1.Attached (go statement engine).2) :
    (holding.onStatement position go engine).1.Attached
      (holding.onStatement position go engine).2 := by
  unfold onStatement at attached ⊢
  cases found : holding.statements[position]? with
  | none =>
      rw [found] at attached
      exact attached
  | some statement =>
      rw [found] at attached
      exact each statement found attached

end Holding

/-- What a handle was given out for is remembered over an action. -/
theorem Action.remembers_perform {holding : Holding Engine} (sound : holding.Sound Engine.Owes)
    (inProcess : holding.connection.InProcess) (action : Action) (engine : Engine) :
    engine.Remembers (action.perform holding engine).2 := by
  have accounts : holding.connection.api.Accounts fun _ => engine.Remembers :=
    Engine.accounts_of_kept inProcess fun _ remembers request => remembers.perform request
  have kept := action.trades_perform ⟨accounts, sound.results, sound.statements⟩
  exact kept 0 engine (.refl engine)

/-- **What an action makes was given out by the engine for what it is held as.** -/
theorem Action.attached_perform {holding : Holding Engine} {engine : Engine}
    (sound : holding.Sound Engine.Owes) (attached : holding.Attached engine)
    (matching : ∀ database, engine.database? (some holding.connection.handle) = some database →
      database.layout = holding.connection.api.layout) (action : Action) :
    (action.perform holding engine).1.Attached (action.perform holding engine).2 := by
  have inProcess := attached.inProcess
  have remembered := attached.mono (action.remembers_perform sound inProcess engine)
  cases action with
  | lastError => exact remembered
  | autocommit | setAutocommit enabled =>
      exact Holding.attached_calling remembered fun _ _ _ still => still
  | query text options =>
      refine Holding.attached_calling remembered fun outcome final answered still => still.keep ?_
      rintro result rfl
      exact Connection.headed_of_query inProcess answered
  | fetchAll position =>
      refine Holding.attached_onResult remembered fun result found still =>
        Holding.attached_calling still fun _ _ _ still => ?_
      refine ⟨inProcess, fun kept member => ?_, still.preparedOn⟩
      rcases List.mem_or_eq_of_mem_set member with earlier | rfl
      · exact still.headed kept earlier
      · exact still.headed result (List.mem_of_getElem? found)
  | closeResult position =>
      refine Holding.attached_onResult remembered fun result found still =>
        ⟨inProcess, fun kept member => ?_, still.preparedOn⟩
      exact still.headed kept (List.mem_of_mem_eraseIdx member)
  | prepare text =>
      refine Holding.attached_calling remembered fun statement final answered still => ?_
      refine ⟨inProcess, still.headed, fun kept member => ?_⟩
      rcases List.mem_append.1 member with earlier | new
      · exact still.preparedOn kept earlier
      · obtain ⟨_, _, _, _, _, _, _, _, _, stored, _⟩ :=
          PreparedStatement.described_of_prepare inProcess matching answered
        cases List.mem_singleton.1 new
        exact Engine.given_of_follow stored rfl
  | bind position index binding =>
      refine Holding.attached_onStatement remembered fun statement found still => ?_
      exact still.setStatement found
        (Loan.statement.inj (PreparedStatement.loan_update statement index binding engine))
  | execute position options =>
      refine Holding.attached_onStatement remembered fun statement found still => ?_
      have same := sound.statements statement (List.mem_of_getElem? found)
      refine Holding.attached_calling still fun outcome final answered still => still.keep ?_
      rintro result rfl
      exact PreparedStatement.headed_of_execute (same ▸ inProcess) answered
  | releaseStatement position =>
      refine Holding.attached_onStatement remembered fun statement found still =>
        ⟨inProcess, still.headed, fun kept member => ?_⟩
      exact still.preparedOn kept (List.mem_of_mem_eraseIdx member)

end ColumnStore
