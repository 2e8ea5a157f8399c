import ColumnStore.Proofs.Client.Attachment
import ColumnStore.Proofs.Client.Reports

/-!
# The latest failure

A caller may ask each open database for the text of its latest failure. Over every run this is the
text of the latest error of the engine that was reported of this database. Errors that the client
finds by itself leave no trace, and what fails in one database is not told to another one.

What a single call tells is known if the engine keeps what the call is about (`Call.Tells`). So
along a run the engine has to keep all that is held: it is owed, it is there, it was given out for
what it is held as, and results can be fetched (`Caller.Attached`). An operation keeps this up, and
no more and no less is told than is reported (`Caller.Attached.lastErrors_perform`).

Main result: `Caller.lastErrors_eq_reported`.
-/

set_option autoImplicit false

namespace ColumnStore

/-! ## What is held is kept -/

namespace Holding

/-- The engine keeps what is alive of a database of it. -/
structure Kept (holding : Holding Engine) (engine : Engine) : Prop where
  inProcess : holding.connection.InProcess
  results : ∀ result ∈ holding.results,
    result.connection = holding.connection ∧ engine.Shows result.native
  statements : ∀ statement ∈ holding.statements, statement.connection = holding.connection ∧
    ∃ stored, engine.statement? (some statement.handle) = some stored ∧
      stored.database = holding.connection.handle

end Holding

theorem Connection.snd_lastError {connection : Connection Engine} (inProcess : connection.InProcess)
    (engine : Engine) : (connection.lastError engine).2 = engine := by
  unfold lastError Api.lastError
  rw [inProcess]
  show (Engine.lastError (some connection.handle) engine).2 = engine
  unfold Engine.lastError
  split <;> rfl

/-- **An action tells the database what it reports.** -/
theorem Action.tells_call {holding : Holding Engine} {engine : Engine} (kept : holding.Kept engine)
    (action : Action) :
    Call.Tells holding.connection.handle (action.call holding) engine := by
  have inProcess := kept.inProcess
  cases action with
  | lastError =>
      refine Call.Tells.done (Call.tells_of_silent (Except.failsFor_ok _) ?_ ?_)
      · exact congrArg Engine.databases (Connection.snd_lastError inProcess engine)
      · exact fun intact => (Connection.snd_lastError inProcess engine).symm ▸ intact
  | autocommit => exact (Connection.tells_autocommit inProcess engine).done
  | setAutocommit enabled => exact Connection.tells_setAutocommit inProcess enabled engine
  | query text options => exact (Connection.tells_query inProcess text options engine).done
  | prepare text => exact (Connection.tells_prepare inProcess text engine).done
  | fetchAll position =>
      refine Call.tells_elim (Call.tells_pure ()) fun result found => ?_
      obtain ⟨same, shows⟩ := kept.results result (List.mem_of_getElem? found)
      rw [← same] at inProcess ⊢
      exact (ResultSet.tells_fetchAll inProcess shows).done
  | closeResult position =>
      refine Call.tells_elim (Call.tells_pure ()) fun result found => ?_
      obtain ⟨same, shows⟩ := kept.results result (List.mem_of_getElem? found)
      rw [← same] at inProcess ⊢
      exact Connection.tells_cleanupResult inProcess _ engine
  | bind position index binding =>
      refine Call.tells_elim (Call.tells_pure ()) fun statement found => ?_
      obtain ⟨same, stored, known, home⟩ := kept.statements statement (List.mem_of_getElem? found)
      rw [← same] at inProcess home ⊢
      exact PreparedStatement.tells_attempt inProcess known home index binding
  | execute position options =>
      refine Call.tells_elim (Call.tells_pure ()) fun statement found => ?_
      obtain ⟨same, stored, known, home⟩ := kept.statements statement (List.mem_of_getElem? found)
      rw [← same] at inProcess home ⊢
      exact (PreparedStatement.tells_execute inProcess known home options).done
  | releaseStatement position =>
      refine Call.tells_elim (Call.tells_pure ()) fun statement found => ?_
      obtain ⟨same, _⟩ := kept.statements statement (List.mem_of_getElem? found)
      rw [← same] at inProcess ⊢
      exact Connection.tells_cleanupStatement inProcess _ engine

/-! ## Opening and closing -/

namespace Engine

/-- Nothing happened to the results and to the databases that were open. -/
structure Spares (before after : Engine) : Prop where
  results : after.results = before.results
  databases : ∀ handle database, before.database? (some handle) = some database →
    after.database? (some handle) = some database

section Spares

variable {engine later : Engine} {handle : Handle .database}

theorem Spares.refl (engine : Engine) : engine.Spares engine :=
  ⟨rfl, fun _ _ found => found⟩

theorem Spares.intact (spares : engine.Spares later) (intact : engine.Intact) : later.Intact := by
  rwa [Intact, spares.results]

theorem spares_addDatabase (engine : Engine) (database : Database) :
    engine.Spares (engine.addDatabase database).2 :=
  ⟨rfl, fun _ _ found => follow_add found database⟩

/-- A database that was opened since may change, and may be closed. -/
theorem Spares.setDatabase (spares : engine.Spares later)
    (fresh : handle.number = engine.databases.nextNumber) (changed : Database) :
    engine.Spares (later.setDatabase handle changed) :=
  ⟨spares.results, fun other database found => follow_modify_of_ne
    (spares.databases other database found) (ne_number_of_follow found fresh) _⟩

theorem Spares.removeDatabase (spares : engine.Spares later)
    (fresh : handle.number = engine.databases.nextNumber) :
    engine.Spares (later.removeDatabase handle) :=
  ⟨spares.results, fun other database found => follow_remove
    (spares.databases other database found) (ne_number_of_follow found fresh)⟩

end Spares

end Engine

namespace Connection

variable {connection : Connection Engine} {engine : Engine}

/-- The text that an open database was last told is the one that is asked for. -/
theorem fst_lastError {database : Database} (inProcess : connection.InProcess)
    (found : engine.database? (some connection.handle) = some database) :
    (connection.lastError engine).1 = database.told := by
  unfold lastError Api.lastError
  rw [inProcess]
  show (Engine.lastError (some connection.handle) engine).1.map NativeText.toString = _
  simp only [Engine.lastError, found]
  rfl

/-- Closing a database removes it. -/
theorem snd_close (inProcess : connection.InProcess) (engine : Engine) :
    (connection.close engine).2 = engine.removeDatabase connection.handle := by
  unfold close Api.closeDatabase
  rw [inProcess]
  rfl

/-- Settings are applied to a database that was opened since. -/
theorem exists_applySettings {before : Engine} {database : Database}
    (inProcess : connection.InProcess)
    (found : engine.database? (some connection.handle) = some database)
    (spares : before.Spares engine) (fresh : connection.handle.number = before.databases.nextNumber)
    (options : Options) :
    ∃ final, connection.applySettings options engine = (.ok connection, final) ∧
      (connection.lastError final).1 = database.told ∧ before.Spares final := by
  unfold applySettings
  split
  · exact ⟨engine, rfl, fst_lastError inProcess found, spares⟩
  · let changed := { database with autocommit := false }
    have set : connection.setAutocommit false engine =
        (.ok (), engine.setDatabase connection.handle changed) := by
      refine Api.check_of_ok ?_
      rw [inProcess]
      show Engine.setAutocommit (some connection.handle) 0 engine = _
      simp only [Engine.setAutocommit, Engine.onDatabase, found]
      rfl
    have put : (engine.setDatabase connection.handle changed).database? (some connection.handle) =
        some changed := Engine.follow_modify found _
    have told : (connection.lastError (engine.setDatabase connection.handle changed)).1 =
        changed.told := fst_lastError inProcess put
    exact ⟨_, Call.tryCatch_of_ok (Call.bind_of_ok set), told, spares.setDatabase fresh changed⟩

/-- The engine opens a database under a new number, or forgets it again. -/
theorem openDatabase_apis (layout : TagLayout) (url : Option NativeText)
    (options : Option NativeOptions) (engine : Engine) :
    let opened := engine.addDatabase (Database.new layout)
    (Engine.apis layout).openDatabase url options engine = (.ok opened.1, opened.2) ∨
      ∃ error final, (Engine.apis layout).openDatabase url options engine = (.error error, final) ∧
        engine.Spares final := by
  cases refused : Engine.refusal? url options with
  | none =>
      have entry : (Engine.apis layout).table.openDatabase url options engine =
          ((0, some (engine.addDatabase (Database.new layout)).1),
            (engine.addDatabase (Database.new layout)).2) := by
        show Engine.openDatabase layout true url options engine = _
        simp only [Engine.openDatabase, refused]
        rfl
      left
      rw [Api.openDatabase, Call.bind_of_ok (Call.lift_eq_ok.2 entry)]
      rfl
  | some failure =>
      let database := ((Database.new layout).fail failure).2
      let shut : Connection Engine := ⟨Engine.apis layout, (engine.addDatabase database).1⟩
      have inProcess : shut.InProcess := rfl
      have entry : (Engine.apis layout).table.openDatabase url options engine =
          ((-2, some shut.handle), (engine.addDatabase database).2) := by
        show Engine.openDatabase layout true url options engine = _
        simp only [Engine.openDatabase, refused]
        rfl
      have asked : (shut.lastError (engine.addDatabase database).2).2 =
          (engine.addDatabase database).2 := snd_lastError inProcess _
      right
      rw [Api.openDatabase, Call.bind_of_ok (Call.lift_eq_ok.2 entry)]
      refine ⟨_, _, rfl, ?_⟩
      show engine.Spares (shut.close (shut.lastError (engine.addDatabase database).2).2).2
      rw [asked, snd_close inProcess]
      exact (Engine.spares_addDatabase engine database).removeDatabase rfl

/-- **Opening a database** spares the others; one that is opened was told nothing yet. -/
theorem spares_openDatabase (layout : TagLayout) (address : Option String) (options : Options)
    (engine : Engine) :
    let run := openDatabase (Engine.apis layout) address options engine
    engine.Spares run.2 ∧
      ∀ connection, run.1 = .ok connection → (connection.lastError run.2).1 = none := by
  intro run
  cases given : terminated? address with
  | error error =>
      have stopped : run = (.error error, engine) := by
        refine Call.bind_of_error ?_
        rw [given]
        rfl
      rw [stopped]
      exact ⟨.refl engine, nofun⟩
  | ok url =>
  cases converted : options.toNative with
  | error error =>
      have stopped : run = (.error error, engine) := by
        refine (Call.bind_of_ok (Api.settle_eq_ok.2 ⟨given, rfl⟩)).trans (Call.bind_of_error ?_)
        rw [converted]
        rfl
      rw [stopped]
      exact ⟨.refl engine, nofun⟩
  | ok native =>
  have start : run = ((Engine.apis layout).openDatabase url (some native) >>= fun handle =>
      applySettings ⟨Engine.apis layout, handle⟩ options) engine :=
    (Call.bind_of_ok (Api.settle_eq_ok.2 ⟨given, rfl⟩)).trans
      (Call.bind_of_ok (Api.settle_eq_ok.2 ⟨converted, rfl⟩))
  rw [start]
  rcases openDatabase_apis layout url (some native) engine with
    opened | ⟨error, final, failed, spares⟩
  · let added := engine.addDatabase (Database.new layout)
    let fresh : Connection Engine := ⟨Engine.apis layout, added.1⟩
    have inProcess : fresh.InProcess := rfl
    have found : added.2.database? (some fresh.handle) = some (Database.new layout) :=
      Registry.find?_add_next _ _
    obtain ⟨final, applied, told, spares⟩ := exists_applySettings inProcess found
      (Engine.spares_addDatabase engine _) rfl options
    rw [Call.bind_of_ok opened, applied]
    refine ⟨spares, ?_⟩
    rintro _ ⟨⟩
    exact told
  · rw [Call.bind_of_error failed]
    exact ⟨spares, nofun⟩

/-- What happens to other databases is not told. -/
theorem lastError_spared {later : Engine} (inProcess : connection.InProcess)
    (opened : engine.IsOpen connection.handle) (spares : engine.Spares later) :
    (connection.lastError later).1 = (connection.lastError engine).1 := by
  obtain ⟨database, found⟩ := opened
  rw [fst_lastError inProcess found, fst_lastError inProcess (spares.databases _ _ found)]

/-- What is recorded for a database is what it is asked for next. -/
theorem lastError_recorded {later : Engine} {home : Handle .database} {latest : Option String}
    (inProcess : connection.InProcess) (opened : engine.IsOpen connection.handle)
    (records : Engine.Records home latest engine later) :
    (connection.lastError later).1 =
      if connection.handle = home then latest.or (connection.lastError engine).1
      else (connection.lastError engine).1 := by
  obtain ⟨database, found⟩ := opened
  obtain ⟨changed, there, told⟩ := records found
  rw [fst_lastError inProcess found, fst_lastError inProcess there, told]

end Connection

/-! ## Callers -/

namespace Caller

/-- What is held is what the engine keeps: it is owed, it is there, it was given out for what it is
held as, and all results can be fetched. -/
structure Attached (caller : Caller Engine) : Prop where
  owes : caller.Accounted Engine.Owes
  lends : caller.Accounted Engine.Lends
  intact : caller.library.Intact
  holdings : ∀ holding ∈ caller.holdings, holding.Attached caller.library

theorem attached_start : (start Engine.empty).Attached :=
  ⟨accounted_start Engine.owes_empty, accounted_start Engine.lends_empty, Engine.intact_empty,
    fun _ absent => absurd absent List.not_mem_nil⟩

variable {caller : Caller Engine} {holding : Holding Engine}

section Attached

variable (attached : caller.Attached) (member : holding ∈ caller.holdings)
include attached member

theorem Attached.opened : ∃ database,
    caller.library.database? (some holding.connection.handle) = some database ∧
      database.layout = holding.connection.api.layout :=
  attached.owes.owed.opened _ _ (mem_loans member holding.connection_mem_loans)

theorem Attached.matching (database : Database)
    (found : caller.library.database? (some holding.connection.handle) = some database) :
    database.layout = holding.connection.api.layout := by
  obtain ⟨other, known, layout⟩ := attached.opened member
  cases found.symm.trans known
  exact layout

theorem Attached.ready : caller.library.Ready holding.connection.handle := by
  obtain ⟨database, found, _⟩ := attached.opened member
  exact ⟨⟨database, found⟩, attached.intact⟩

/-- The engine keeps what is held. -/
theorem Attached.kept : holding.Kept caller.library := by
  have sound := attached.owes.sound holding member
  obtain ⟨inProcess, headed, preparedOn⟩ := attached.holdings holding member
  refine ⟨inProcess, fun result held => ?_, fun statement held => ?_⟩
  · obtain ⟨native, there⟩ := attached.lends.owed.results.kept _
      (mem_loans member (holding.result_mem_loans held))
    have same := (headed result held).holds native (Engine.follow_eq_some.1 there).2
    exact ⟨(sound.results result held).1, native, there, same⟩
  · obtain ⟨stored, there⟩ := attached.lends.owed.statements.kept _
      (mem_loans member (holding.statement_mem_loans held))
    have same := (preparedOn statement held).holds stored (Engine.follow_eq_some.1 there).2
    exact ⟨sound.statements statement held, stored, there, same⟩

end Attached

/-- No database is held twice. -/
theorem Attached.handle_ne (attached : caller.Attached) {position other : Nat}
    {second : Holding Engine} (found : caller.holdings[position]? = some holding)
    (known : caller.holdings[other]? = some second) (apart : other ≠ position) :
    second.connection.handle ≠ holding.connection.handle := by
  intro same
  have loan : second.connection.loan = holding.connection.loan := by
    obtain ⟨database, opened, layout⟩ := attached.opened (List.mem_of_getElem? found)
    have matching := attached.matching (List.mem_of_getElem? known) database (same ▸ opened)
    unfold Connection.loan
    rw [same, ← matching, layout]
  let others : Caller Engine := ⟨caller.library, caller.holdings.eraseIdx position⟩
  have rest : second ∈ others.holdings := List.mem_eraseIdx_iff_getElem?.2 ⟨other, apart, known⟩
  have twice : holding.connection.loan ∈
      ((caller.holdings.eraseIdx position).map Holding.loans).sum :=
    loan ▸ mem_loans rest second.connection_mem_loans
  have once := attached.owes.owed.once holding.connection.api.layout holding.connection.handle
  rw [loans, ← List.sum_map_eraseIdx found Holding.loans, Multiset.count_add] at once
  have here := Multiset.count_pos.2 holding.connection_mem_loans
  have there := Multiset.count_pos.2 twice
  unfold Connection.loan at here there
  omega

/-- What a handle was given out for is remembered over an operation. -/
theorem Attached.remembers_perform (attached : caller.Attached) (operation : Operation TagLayout) :
    caller.library.Remembers (operation.perform Engine.apis caller).library := by
  let Keeps (_ : Multiset Loan) (engine : Engine) : Prop := caller.library.Remembers engine
  have accounts {api : Api Engine} (inProcess : api.table = Engine.functionTable api.layout) :
      api.Accounts Keeps :=
    Engine.accounts_of_kept inProcess fun _ remembers request => remembers.perform request
  have accounted : caller.Accounted Keeps := by
    refine ⟨fun holding member => ?_, .refl _⟩
    have sound := attached.owes.sound holding member
    exact ⟨accounts (attached.holdings holding member).inProcess, sound.results, sound.statements⟩
  exact (accounted.perform (fun layout => accounts rfl) operation).owed

/-- What an action tells, and what it leaves. -/
theorem Attached.tells_call (attached : caller.Attached) (member : holding ∈ caller.holdings)
    (action : Action) :
    Engine.Records holding.connection.handle
        (Call.engineText? (action.call holding caller.library).1)
        caller.library (action.call holding caller.library).2 ∧
    (action.call holding caller.library).2.Intact :=
  action.tells_call (attached.kept member) (attached.ready member)

/-- **An operation leaves what is held with the engine.** -/
theorem Attached.perform (attached : caller.Attached) (operation : Operation TagLayout) :
    (operation.perform Engine.apis caller).Attached := by
  have remembers := attached.remembers_perform operation
  refine ⟨attached.owes.perform Engine.accounts operation,
    attached.lends.perform Engine.accounts_lends operation, ?_, ?_⟩
  · cases operation with
    | openDatabase layout address options =>
        obtain ⟨spares, _⟩ := Connection.spares_openDatabase layout address options caller.library
        have intact := spares.intact attached.intact
        simp only [Operation.perform]
        split <;> next run =>
          rw [run] at intact
          exact intact
    | closeDatabase position =>
        simp only [Operation.perform]
        split
        · next connection found =>
            have inProcess := (attached.holdings _ (List.mem_of_getElem? found)).inProcess
            rw [Connection.snd_close inProcess]
            exact attached.intact
        · exact attached.intact
    | act position action =>
        simp only [Operation.perform]
        split
        · next holding found =>
            obtain ⟨_, intact⟩ := attached.tells_call (List.mem_of_getElem? found) action
            rwa [Action.snd_call] at intact
        · exact attached.intact
  · intro holding member
    rcases Operation.mem_perform member with
      earlier | ⟨layout, connection, rfl, same⟩ | ⟨position, action, held, found, rfl, library⟩
    · exact (attached.holdings holding earlier).mono remembers
    · refine ⟨?_, fun _ absent => absurd absent List.not_mem_nil,
        fun _ absent => absurd absent List.not_mem_nil⟩
      rw [Connection.InProcess, same]
      rfl
    · have inside := List.mem_of_getElem? found
      rw [library]
      exact action.attached_perform (attached.owes.sound held inside)
        (attached.holdings held inside) (attached.matching inside)

theorem Attached.run (attached : caller.Attached) (operations : List (Operation TagLayout)) :
    (caller.run Engine.apis operations).Attached := by
  induction operations generalizing caller with
  | nil => exact attached
  | cons operation rest ih => exact ih (attached.perform operation)

/-! ## What is told -/

/-- An action tells its own database the engine's text, if it fails with one, and the others
nothing. -/
theorem Attached.lastError_act (attached : caller.Attached) {position other : Nat}
    {second : Holding Engine} (found : caller.holdings[position]? = some holding)
    (known : caller.holdings[other]? = some second) (action : Action) :
    (second.connection.lastError (action.call holding caller.library).2).1 =
      if other = position then
        (Call.engineText? (action.call holding caller.library).1).or
          (second.connection.lastError caller.library).1
      else (second.connection.lastError caller.library).1 := by
  have member := List.mem_of_getElem? known
  obtain ⟨records, _⟩ := attached.tells_call (List.mem_of_getElem? found) action
  rw [Connection.lastError_recorded (attached.holdings second member).inProcess
    (attached.ready member).opened records]
  by_cases same : other = position
  · subst same
    cases found.symm.trans known
    rw [if_pos rfl, if_pos rfl]
  · rw [if_neg same, if_neg (attached.handle_ne found known same)]

/-- Opening a database tells the others nothing. -/
theorem Attached.lastError_open (attached : caller.Attached) (layout : TagLayout)
    (address : Option String) (options : Options) (member : holding ∈ caller.holdings) :
    (holding.connection.lastError
      (Connection.openDatabase (Engine.apis layout) address options caller.library).2).1 =
        (holding.connection.lastError caller.library).1 :=
  Connection.lastError_spared (attached.holdings holding member).inProcess
    (attached.ready member).opened
    (Connection.spares_openDatabase layout address options caller.library).1

/-- Closing a database tells the others nothing. -/
theorem Attached.lastError_close (attached : caller.Attached) {position other : Nat}
    {closed : Holding Engine} (found : caller.holdings[position]? = some closed)
    (known : caller.holdings[other]? = some holding) (apart : other ≠ position) :
    (holding.connection.lastError (closed.connection.close caller.library).2).1 =
      (holding.connection.lastError caller.library).1 := by
  have member := List.mem_of_getElem? known
  have inside := List.mem_of_getElem? found
  obtain ⟨database, there, _⟩ := attached.opened member
  have numbers : closed.connection.handle.number ≠ holding.connection.handle.number := by
    intro same
    obtain ⟨closing, opened, _⟩ := attached.opened inside
    exact attached.handle_ne found known apart (Engine.handle_eq_of_follow opened there same).symm
  have still : (caller.library.removeDatabase closed.connection.handle).database?
      (some holding.connection.handle) = some database := Engine.follow_remove there numbers
  have inProcess := (attached.holdings holding member).inProcess
  rw [Connection.snd_close (attached.holdings closed inside).inProcess,
    Connection.fst_lastError inProcess there, Connection.fst_lastError inProcess still]

end Caller

/-! ## Histories -/

section Histories

variable {σ ι : Type}

/-- What each of the databases that are held was last told. -/
def Caller.lastErrors (caller : Caller σ) : List (Option String) :=
  caller.holdings.map fun holding => (holding.connection.lastError caller.library).1

/-- What each of them was last told after an operation, if no more is told than is reported. -/
def Operation.report (apis : ι → Api σ) (operation : Operation ι) (caller : Caller σ)
    (told : List (Option String)) : List (Option String) :=
  match operation with
  | openDatabase library address options =>
      match (Connection.openDatabase (apis library) address options caller.library).1 with
      | .ok _ => told ++ [none]
      | .error _ => told
  | closeDatabase position =>
      match caller.holdings[position]? with
      | some ⟨_, [], []⟩ => told.eraseIdx position
      | _ => told
  | act position action =>
      match caller.holdings[position]? with
      | some holding =>
          told.modify position (Call.engineText? (action.call holding caller.library).1).or
      | none => told

/-- What each of them was last told after some operations, if no more is told than is reported. -/
def Caller.report (apis : ι → Api σ) :
    List (Operation ι) → Caller σ → List (Option String) → List (Option String)
  | [], _, told => told
  | operation :: rest, caller, told =>
      report apis rest (operation.perform apis caller) (operation.report apis caller told)

end Histories

namespace Caller

variable {caller : Caller Engine}

/-- **No more and no less is told than is reported.** -/
theorem Attached.lastErrors_perform (attached : caller.Attached)
    (operation : Operation TagLayout) :
    (operation.perform Engine.apis caller).lastErrors =
      operation.report Engine.apis caller caller.lastErrors := by
  cases operation with
  | openDatabase layout address options =>
      have others := List.map_congr_left fun holding (member : holding ∈ caller.holdings) =>
        attached.lastError_open layout address options member
      obtain ⟨_, fresh⟩ := Connection.spares_openDatabase layout address options caller.library
      simp only [Operation.perform, Operation.report]
      rcases run : Connection.openDatabase (Engine.apis layout) address options caller.library with
        ⟨outcome, library⟩
      rw [run] at others fresh
      cases outcome with
      | error error => exact others
      | ok connection =>
          have new : (connection.lastError library).1 = none := fresh connection rfl
          simp only [lastErrors, List.map_append, List.map_cons, List.map_nil, new]
          rw [others]
  | closeDatabase position =>
      simp only [Operation.perform, Operation.report]
      cases found : caller.holdings[position]? with
      | none => rfl
      | some closed =>
          obtain ⟨connection, _ | ⟨result, results⟩, _ | ⟨statement, statements⟩⟩ := closed
          case nil.nil =>
            simp only [lastErrors]
            rw [List.eraseIdx_map]
            refine List.map_congr_left fun holding member => ?_
            obtain ⟨other, apart, known⟩ := List.mem_eraseIdx_iff_getElem?.1 member
            have told := attached.lastError_close found known apart
            exact told
          all_goals dsimp only
  | act position action =>
      cases found : caller.holdings[position]? with
      | none => simp only [Operation.perform, Operation.report, found]
      | some holding =>
          have told {other : Nat} {second : Holding Engine}
              (known : caller.holdings[other]? = some second) :=
            attached.lastError_act found known action
          rw [Operation.perform_act found]
          refine List.ext_getElem? fun other => ?_
          simp only [Operation.report, found, lastErrors, List.getElem?_map, List.getElem?_modify,
            List.getElem?_set]
          by_cases same : position = other
          · subst same
            have here := told found
            rw [if_pos rfl] at here
            rw [if_pos rfl, if_pos (List.getElem?_eq_some_iff.1 found).1, found]
            simp only [Option.map_some, Functor.map, if_pos, action.connection_perform, here]
          · rw [if_neg same]
            cases known : caller.holdings[other]? with
            | none => rfl
            | some second =>
                have there := told known
                rw [if_neg (Ne.symm same)] at there
                simp only [Option.map_some, Functor.map, if_neg same, there]

theorem Attached.lastErrors_run (attached : caller.Attached)
    (operations : List (Operation TagLayout)) :
    (caller.run Engine.apis operations).lastErrors =
      report Engine.apis operations caller caller.lastErrors := by
  induction operations generalizing caller with
  | nil => rfl
  | cons operation rest ih =>
      rw [report, ← attached.lastErrors_perform]
      exact ih (attached.perform operation)

/-- **Last errors are the latest that were reported.** Over every run, what each database that is
held was last told is the text of the latest error of the engine that was reported of it, and
nothing if none was. So an action that fails with an error of the engine, other than that there is
no datum for NULL, tells its database just this text; any other leaves the database with what it
was last told; and neither tells another database anything. -/
theorem lastErrors_eq_reported (operations : List (Operation TagLayout)) :
    let caller := (start Engine.empty).run Engine.apis operations
    caller.lastErrors = report Engine.apis operations (start Engine.empty) [] ∧
    ∀ (position : Nat) (holding : Holding Engine) (action : Action),
      caller.holdings[position]? = some holding →
      let outcome := (action.call holding caller.library).1
      let reached := (action.call holding caller.library).2
      ((Operation.act position action).perform Engine.apis caller).library = reached ∧
      (∀ entry text, outcome = .error (.native entry text) → entry ≠ .null →
        (holding.connection.lastError reached).1 = some text) ∧
      ((∀ entry text, outcome = .error (.native entry text) → entry = .null) →
        (holding.connection.lastError reached).1 =
          (holding.connection.lastError caller.library).1) ∧
      ∀ (other : Nat) (second : Holding Engine), caller.holdings[other]? = some second →
        other ≠ position →
        (second.connection.lastError reached).1 =
          (second.connection.lastError caller.library).1 := by
  intro caller
  have attached : caller.Attached := attached_start.run operations
  refine ⟨attached_start.lastErrors_run operations, fun position holding action found => ?_⟩
  intro outcome reached
  have own : (holding.connection.lastError reached).1 =
      (Call.engineText? outcome).or (holding.connection.lastError caller.library).1 := by
    have told := attached.lastError_act found found action
    rwa [if_pos rfl] at told
  refine ⟨congrArg Caller.library (Operation.perform_act found), fun entry text failed other => ?_,
    fun client => ?_, fun other second known apart => ?_⟩
  · rw [own, failed]
    exact congrArg (Option.or · _) (if_neg other)
  · have silent : Except.FailsFor Error.Silent outcome := by
      intro error failed
      cases error with
      | native entry text => exact if_pos (client entry text failed)
      | _ => rfl
    rw [own, Call.engineText?_eq_none silent, Option.none_or]
  · have told := attached.lastError_act found known action
    rwa [if_neg apart] at told

/-- A statement that lacks a value is refused, which is told to its database and to no other. -/
theorem lastErrors_of_unbound : ∃ (caller : Caller Engine) (first second : Holding Engine),
    caller.holdings[0]? = some first ∧ caller.holdings[1]? = some second ∧
    (second.connection.lastError caller.library).1 = none ∧
    let outcome := ((Action.execute 0 ⟨false, 0⟩).call first caller.library).1
    let reached := ((Action.execute 0 ⟨false, 0⟩).call first caller.library).2
    outcome = .error (.native .execute "monetdbe_execute: parameter 0 is not bound") ∧
    (first.connection.lastError reached).1 =
      some "monetdbe_execute: parameter 0 is not bound" ∧
    (second.connection.lastError reached).1 = none := by
  let operations : List (Operation TagLayout) :=
    [.openDatabase ⟨true⟩ none Options.default, .openDatabase ⟨false⟩ none Options.default,
      .act 0 (.query "CREATE TABLE t (a INT)" ⟨false, 0⟩),
      .act 0 (.prepare "INSERT INTO t VALUES (?)")]
  let caller := (start Engine.empty).run Engine.apis operations
  obtain ⟨first, found⟩ : ∃ first, caller.holdings[0]? = some first :=
    Option.isSome_iff_exists.1 (by decide +kernel)
  obtain ⟨second, known⟩ : ∃ second, caller.holdings[1]? = some second :=
    Option.isSome_iff_exists.1 (by decide +kernel)
  have refused : caller.holdings[0]?.map (fun holding =>
      ((Action.execute 0 ⟨false, 0⟩).call holding caller.library).1) =
        some (.error (.native .execute "monetdbe_execute: parameter 0 is not bound")) := by
    decide +kernel
  have untold : caller.holdings[1]?.map (fun holding =>
      (holding.connection.lastError caller.library).1) = some none := by
    decide +kernel
  rw [found] at refused
  rw [known] at untold
  have refused := Option.some.inj refused
  have untold := Option.some.inj untold
  obtain ⟨_, told, _, others⟩ :=
    (lastErrors_eq_reported operations).2 0 first (.execute 0 ⟨false, 0⟩) found
  exact ⟨caller, first, second, found, known, untold, refused, told _ _ refused (by decide),
    (others 1 second known (by decide)).trans untold⟩

end Caller

end ColumnStore
