import ColumnStore.Proofs.Client.Binding
import ColumnStore.Proofs.Client.Loans

/-!
# The counters of the engine

The engine counts the objects it has handed out, and subtracts one when an object is released;
it does not check that the object was still there. Toward a client that gives back what it owes,
the counters are the numbers of objects of each kind that are owed (`Engine.Owes`). For this to
stay so the databases that are owed have to be open, since nothing can be released through one
that is not, and each of them has to be owed once.

Main result: `Engine.accounts`.
-/

set_option autoImplicit false

namespace ColumnStore

/-- How many objects of a kind are alive. -/
def Counters.alive (counters : Counters) : Resource → Nat
  | .database => counters.databases
  | .result => counters.results
  | .statement => counters.statements

namespace Engine

/-- What is owed is what is counted; the databases are open, with the layouts that they were
opened with. -/
structure Owes (owed : Multiset Loan) (engine : Engine) : Prop where
  counted : ∀ resource, engine.counters.alive resource =
    owed.countP fun loan => loan.resource = resource
  opened : ∀ layout handle, .database layout handle ∈ owed →
    ∃ database, engine.database? (some handle) = some database ∧ database.layout = layout
  once : ∀ layout handle, owed.count (.database layout handle) ≤ 1

theorem owes_empty : Owes 0 empty := by
  refine ⟨fun resource => ?_, fun layout handle absent => ?_, fun layout handle => ?_⟩
  · cases resource <;> rfl
  · cases Multiset.notMem_zero _ absent
  · exact Nat.zero_le 1

section Changes

variable {owed : Multiset Loan} {loan : Loan} {engine later : Engine} {home : Handle .database}
  {database changed : Database}

/-- One object more or less of a kind. -/
theorem countP_resource (loan : Loan) (owed : Multiset Loan) (resource : Resource) :
    (({loan} : Multiset Loan) + owed).countP (fun loan => loan.resource = resource) =
      owed.countP (fun loan => loan.resource = resource) +
        if loan.resource = resource then 1 else 0 := by
  rw [Multiset.singleton_add, Multiset.countP_cons]

/-- Only the databases and the counters matter. -/
theorem Owes.congr (owes : Owes owed engine) (databases : later.databases = engine.databases)
    (alive : later.counters.alive = engine.counters.alive) : Owes owed later := by
  refine ⟨alive ▸ owes.counted, fun layout handle member => ?_, owes.once⟩
  obtain ⟨database, found, same⟩ := owes.opened layout handle member
  exact ⟨database, by rwa [database?, databases], same⟩

/-- A result or a statement is handed out. -/
theorem Owes.add (owes : Owes owed engine) (other : ∀ layout handle, loan ≠ .database layout handle)
    (databases : later.databases = engine.databases)
    (grown : ∀ resource, later.counters.alive resource =
      engine.counters.alive resource + if loan.resource = resource then 1 else 0) :
    Owes ({loan} + owed) later := by
  refine ⟨fun resource => ?_, fun layout handle member => ?_, fun layout handle => ?_⟩
  · rw [grown, owes.counted, countP_resource]
  · rcases Multiset.mem_add.1 member with new | earlier
    · cases other layout handle (Multiset.mem_singleton.1 new).symm
    · obtain ⟨database, found, same⟩ := owes.opened layout handle earlier
      exact ⟨database, by rwa [database?, databases], same⟩
  · rw [Multiset.count_add, Multiset.count_singleton, if_neg (other layout handle).symm, zero_add]
    exact owes.once layout handle

/-- An object is released. -/
theorem Owes.remove (owes : Owes ({loan} + owed) engine)
    (databases : later.databases = engine.databases)
    (shrunk : ∀ resource, later.counters.alive resource =
      engine.counters.alive resource - if loan.resource = resource then 1 else 0) :
    Owes owed later := by
  refine ⟨fun resource => ?_, fun layout handle member => ?_, fun layout handle => ?_⟩
  · rw [shrunk, owes.counted, countP_resource, Nat.add_sub_cancel]
  · obtain ⟨database, found, same⟩ :=
      owes.opened layout handle (Multiset.mem_add.2 (.inr member))
    exact ⟨database, by rwa [database?, databases], same⟩
  · exact (Multiset.count_le_of_le _ (Multiset.le_add_left _ _)).trans (owes.once layout handle)

/-- A database is put in the place of one with the same layout. -/
theorem Owes.setDatabase (owes : Owes owed engine)
    (found : engine.database? (some home) = some database)
    (same : changed.layout = database.layout) : Owes owed (engine.setDatabase home changed) := by
  refine ⟨owes.counted, fun layout handle member => ?_, owes.once⟩
  obtain ⟨other, known, rfl⟩ := owes.opened layout handle member
  by_cases here : home.number = handle.number
  · have both : database = other := by
      have first := (follow_eq_some.1 found).2
      rw [here, (follow_eq_some.1 known).2] at first
      exact (Option.some.inj first).symm
    refine ⟨changed, ?_, both ▸ same⟩
    have replaced := follow_modify known fun _ => changed
    rwa [← here] at replaced
  · exact ⟨other, follow_modify_of_ne known here _, rfl⟩

/-- A database that is opened was not owed before. -/
theorem Owes.addDatabase (owes : Owes owed engine) (database : Database) :
    Owes ({.database database.layout (engine.addDatabase database).1} + owed)
      (engine.addDatabase database).2 := by
  have fresh (layout : TagLayout) : .database layout (engine.addDatabase database).1 ∉ owed := by
    intro member
    obtain ⟨other, known, _⟩ := owes.opened _ _ member
    have known : follow engine.databases (engine.addDatabase database).1 = some other := known
    exact Nat.lt_irrefl _ (number_lt_of_follow known)
  refine ⟨fun resource => ?_, fun layout handle member => ?_, fun layout handle => ?_⟩
  · rw [countP_resource, ← owes.counted]
    cases resource <;> rfl
  · rcases Multiset.mem_add.1 member with new | earlier
    · cases Multiset.mem_singleton.1 new
      exact ⟨database, Registry.find?_add_next _ _, rfl⟩
    · obtain ⟨other, known, same⟩ := owes.opened layout handle earlier
      exact ⟨other, follow_add known database, same⟩
  · rw [Multiset.count_add, Multiset.count_singleton]
    split
    · next here =>
        cases here
        rw [Multiset.count_eq_zero.2 (fresh _)]
    · rw [zero_add]
      exact owes.once layout handle

/-- A database that is closed is owed no more, and the others stay open. -/
theorem Owes.removeDatabase {layout : TagLayout}
    (owes : Owes ({.database layout home} + owed) engine) :
    Owes owed (engine.removeDatabase home) := by
  obtain ⟨mine, found, rfl⟩ := owes.opened layout home (Multiset.mem_add.2
    (.inl (Multiset.mem_singleton_self _)))
  have rest : Owes owed { engine with
      counters.databases := engine.counters.databases - 1 } :=
    owes.remove rfl fun resource => by cases resource <;> rfl
  refine ⟨rest.counted, fun other handle member => ?_, rest.once⟩
  obtain ⟨database, known, rfl⟩ := rest.opened other handle member
  refine ⟨database, follow_remove known fun same => ?_, rfl⟩
  have twice : home = handle := by
    obtain ⟨keeper, number⟩ := home
    obtain ⟨other, _⟩ := handle
    cases (follow_eq_some.1 found).1.trans (follow_eq_some.1 known).1.symm
    cases same
    rfl
  subst twice
  cases found.symm.trans known
  have once := owes.once mine.layout home
  rw [Multiset.count_add, Multiset.count_singleton_self] at once
  have present := Multiset.count_pos.2 member
  omega

theorem Owes.addResult (owes : Owes owed engine) (result : NativeResult) :
    Owes ({.result (engine.addResult result).1.handle} + owed) (engine.addResult result).2 :=
  owes.add (fun _ _ => Loan.noConfusion) rfl fun resource => by cases resource <;> rfl

theorem Owes.removeResult {handle : Handle .result} (owes : Owes ({.result handle} + owed) engine) :
    Owes owed (engine.removeResult handle) :=
  owes.remove rfl fun resource => by cases resource <;> rfl

theorem Owes.addStatement (owes : Owes owed engine) (stored : StoredStatement)
    (tags : List Int32) :
    Owes ({.statement (engine.addStatement stored tags).1.handle} + owed)
      (engine.addStatement stored tags).2 :=
  owes.add (fun _ _ => Loan.noConfusion) rfl fun resource => by cases resource <;> rfl

theorem Owes.removeStatement {handle : Handle .statement}
    (owes : Owes ({.statement handle} + owed) engine) :
    Owes owed (engine.removeStatement handle) :=
  owes.remove rfl fun resource => by cases resource <;> rfl

end Changes

/-! ## Entry points -/

section EntryPoints

variable {α : Type} {home : Handle .database} {database : Database} {layout : TagLayout}

/-- The database is found, with the layout that it was opened with. -/
theorem Owes.found {owed : Multiset Loan} {engine : Engine}
    (owes : Owes ({.database layout home} + owed) engine) :
    ∃ database, engine.database? (some home) = some database ∧ database.layout = layout :=
  owes.opened layout home (Multiset.mem_add.2 (.inl (Multiset.mem_singleton_self _)))

/-- A failure is recorded in a database. -/
theorem Owes.refuse {owed : Multiset Loan} {engine : Engine} (owes : Owes owed engine)
    (found : engine.database? (some home) = some database) (failure : Failure) :
    Owes owed (refuse (α := α) home database failure engine).2 :=
  owes.setDatabase found rfl

/-- What a statement hands out is owed. -/
theorem Owes.run {owed : Multiset Loan} {engine : Engine} (owes : Owes owed engine)
    (found : engine.database? (some home) = some database)
    {attempt : Except Failure (Database × Effect)}
    (same : ∀ changed effect, attempt = .ok (changed, effect) →
      changed.layout = database.layout) :
    Owes (Loan.either (fun executed => Loan.ofResult executed.result) 0
      (run home database true attempt engine).1 + owed)
      (run home database true attempt engine).2 := by
  cases attempt with
  | error failure =>
      have refused := owes.refuse (α := Executed) found failure
      rwa [← zero_add owed] at refused
  | ok answer =>
      obtain ⟨changed, effect⟩ := answer
      have kept := owes.setDatabase found (same changed effect rfl)
      cases effect with
      | rows result => exact kept.addResult result
      | schema => exact kept.addResult NativeResult.withoutColumns
      | affected count =>
          rw [← zero_add owed] at kept
          exact kept

theorem trades_openDatabase (layout : TagLayout) (url : Option NativeText)
    (options : Option NativeOptions) :
    Trades Owes (openDatabase layout true url options) 0
      fun answer => Loan.ofDatabase layout answer.2 := by
  intro others engine owes
  rw [zero_add] at owes
  unfold openDatabase
  cases refusal? url options with
  | none => exact owes.addDatabase (Database.new layout)
  | some failure => exact owes.addDatabase ((Database.new layout).fail failure).2

theorem trades_query (home : Handle .database) (text : NativeText) :
    Trades Owes (query (some home) (some text) true) 0
      (Loan.either (fun executed => Loan.ofResult executed.result) 0) := by
  intro others engine owes
  rw [zero_add] at owes
  cases found : engine.database? (some home) with
  | none =>
      simp only [query, onDatabase, found]
      rwa [← zero_add others] at owes
  | some database =>
      simp only [query, onDatabase, found]
      refine owes.run found fun changed effect executed => ?_
      obtain ⟨statement, _, executed⟩ := Except.bind_eq_ok.1 executed
      exact Database.layout_execute executed

theorem trades_execute (handle : Handle .statement) :
    Trades Owes (execute (some handle) true) 0
      (Loan.either (fun executed => Loan.ofResult executed.result) 0) := by
  intro others engine owes
  rw [zero_add] at owes
  cases known : engine.statement? (some handle) with
  | none =>
      simp only [execute, onStatement, known]
      rwa [← zero_add others] at owes
  | some stored =>
      cases found : engine.database? (some stored.database) with
      | none =>
          simp only [execute, onStatement, known, found]
          rwa [← zero_add others] at owes
      | some database =>
          simp only [execute, onStatement, known, found]
          refine owes.run found fun changed effect executed => ?_
          obtain ⟨values, _, executed⟩ := Except.bind_eq_ok.1 executed
          exact Database.layout_execute executed

/-- A result is released through a database that is owed. -/
theorem trades_cleanupResult (home : Handle .database) (handle : Handle .result) :
    Trades Owes (cleanupResult (some home) (some handle))
      ({.result handle} + {.database layout home}) fun _ => {.database layout home} := by
  intro others engine owes
  rw [add_assoc] at owes
  obtain ⟨database, found, _⟩ := owes.opened layout home (by simp)
  simp only [cleanupResult, onDatabase, found]
  exact owes.removeResult

theorem trades_cleanupStatement (home : Handle .database) (handle : Handle .statement) :
    Trades Owes (cleanupStatement (some home) (some handle))
      ({.statement handle} + {.database layout home}) fun _ => {.database layout home} := by
  intro others engine owes
  rw [add_assoc] at owes
  obtain ⟨database, found, _⟩ := owes.opened layout home (by simp)
  simp only [cleanupStatement, onDatabase, found]
  exact owes.removeStatement

/-- The tags of a statement are those of its parameters, so they are readable. -/
theorem readable_addStatement {parsed : Statement} {preparation : Preparation}
    (prepared : database.prepare home parsed = .ok preparation) (engine : Engine) :
    (engine.addStatement preparation.stored preparation.tags).1.readable database.layout = true := by
  obtain ⟨parameters, table, outputs, _, stored, tags, _⟩ := Database.prepare_eq_ok prepared
  have count : preparation.stored.parameters.length = preparation.tags.length := by
    rw [stored]
    exact tags.length_eq
  rw [LiveStatement.readable, PreparedStatement.shownTags_addStatement count,
    PreparedStatement.typesOfTags_eq tags]
  rfl

/-- The description of a statement can be read. -/
theorem stops_addResult {parsed : Statement} {preparation : Preparation}
    (prepared : database.prepare home parsed = .ok preparation) (engine : Engine) :
    (Api.ofTable (functionTable database.layout) database.layout).stops
      (some (engine.addResult preparation.description).1)
      (engine.addResult preparation.description).2 = false := by
  obtain ⟨parameters, table, outputs, _, _, _, laid, _⟩ := Database.prepare_eq_ok prepared
  let connection : Connection Engine :=
    ⟨Api.ofTable (functionTable database.layout) database.layout, home⟩
  have inProcess : connection.InProcess := rfl
  obtain ⟨final, read⟩ := Description.exists_metadata inProcess laid
    (result?_addResult_self engine preparation.description) rfl
  rw [← Bool.not_eq_true, Api.stops_some, read]
  nofun

/-- A statement is handed out along with its description. -/
theorem trades_prepare (home : Handle .database) (text : NativeText) :
    Trades Owes ((Api.ofTable (functionTable layout) layout).foreseeing (some home) (some text))
      {.database layout home}
      (Loan.either (fun answer => answer.1.loans layout answer.2 + {.database layout home})
        {.database layout home}) := by
  intro others engine owes
  obtain ⟨database, found, rfl⟩ := owes.found
  let api : Api Engine := Api.ofTable (functionTable database.layout) database.layout
  cases attempt : (do database.prepare home (← Statement.parse text.toString)) with
  | error failure =>
      have refused : api.table.prepare (some home) (some text) engine =
          refuse home database failure engine := prepare_of_error found attempt
      rw [Api.foreseeing_of_error refused]
      exact owes.refuse (α := Prepared) found failure
  | ok preparation =>
      obtain ⟨parsed, _, made⟩ := Except.bind_eq_ok.1 attempt
      let added := engine.addStatement preparation.stored preparation.tags
      let shown := added.2.addResult preparation.description
      have handed : api.table.prepare (some home) (some text) engine =
          (.ok ⟨some added.1, some shown.1⟩, shown.2) := prepare_of_ok found attempt
      have both := (owes.addStatement preparation.stored preparation.tags).addResult
        preparation.description
      have readable : added.1.readable database.layout = true := readable_addStatement made engine
      have runs : api.stops (some shown.1) shown.2 = false := stops_addResult made added.2
      rw [Api.foreseeing_of_ok handed]
      show Owes ({.statement added.1.handle} + added.1.description database.layout
        (api.stops (some shown.1) shown.2) (some shown.1) + {.database database.layout home} +
          others) _
      rw [runs, LiveStatement.description_of_readable readable, if_neg Bool.false_ne_true,
        Loan.ofResult_some, add_assoc, add_comm {Loan.statement _}, add_assoc]
      exact both

end EntryPoints

/-- **The engine keeps up what is owed**: it counts it. -/
theorem accounts (layout : TagLayout) :
    (Api.ofTable (functionTable layout) layout).Accounts Owes where
  openDatabase url options := trades_openDatabase layout url options
  closeDatabase home := by
    intro others engine owes
    rw [zero_add]
    exact owes.removeDatabase
  lastError home := by
    intro others engine owes
    show Owes (0 + others) (lastError (some home) engine).2
    unfold lastError
    split <;> exact owes
  getAutocommit home := fun others engine owes =>
    onDatabase_property (Owes (0 + others)) owes fun _ _ _ => owes
  setAutocommit home value := fun others engine owes =>
    onDatabase_property (Owes (0 + others)) owes fun _ _ found => owes.setDatabase found rfl
  query := trades_query
  resultFetch handle index := by
    intro others engine owes
    show Owes (0 + others) (resultFetch (some handle) true index engine).2
    cases kept : engine.result? (some handle) with
    | none =>
        simp only [resultFetch, kept]
        exact owes
    | some result =>
        cases there : result.columns[index]? with
        | none =>
            simp only [resultFetch, kept, there]
            exact owes
        | some descriptor =>
            simp only [resultFetch, kept, there]
            exact owes.congr rfl (funext fun resource => by cases resource <;> rfl)
  cleanupResult := trades_cleanupResult
  prepare := trades_prepare
  bind handle datum index := by
    intro others engine owes
    refine onStatement_property (Owes (0 + others)) owes fun _ stored _ _ found => ?_
    cases stored.bind (some datum) index with
    | ok bound => exact owes.congr rfl rfl
    | error failure => exact owes.refuse found failure
  execute := trades_execute
  cleanupStatement := trades_cleanupStatement
  nullValue home tag := fun others engine owes => owes
  writeCells column cells := fun others engine owes => owes.congr rfl rfl

end Engine

end ColumnStore
