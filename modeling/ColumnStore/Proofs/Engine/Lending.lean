import ColumnStore.Proofs.Engine.Counters

/-!
# What the engine lends

Toward a client that gives back what it owes, the objects that are owed are there: the engine
forgets a result or a statement only when it is released, and what one holder releases is never
what another holds, since no number is used for a second object (`Engine.Lends`). What an object
was handed out for does not change while it is there. A result keeps the header that it was handed
out with (`Engine.Headed`), and a statement is a statement of the database that it was prepared on
(`Engine.PreparedOn`).

Main results: `Engine.accounts_lends`, `Engine.accounts_of_kept`, `Engine.headed_perform` and
`Engine.preparedOn_perform`.
-/

set_option autoImplicit false

namespace ColumnStore

/-! ## Objects under their numbers -/

namespace Registry

variable {α : Type} {registry : Registry α} {number : Nat} {property : α → Prop}

/-- The number was given out, and the object under it, unless it was released, has a property. -/
structure Given (registry : Registry α) (number : Nat) (property : α → Prop) : Prop where
  given : number < registry.nextNumber
  holds : ∀ object, registry.find? number = some object → property object

theorem Given.add (given : registry.Given number property) (object : α) :
    (registry.add object).Given number property := by
  refine ⟨?_, fun other found => given.holds other ?_⟩
  · rw [nextNumber, Registry.add, List.length_append]
    exact Nat.lt_of_lt_of_le given.given (Nat.le_add_right _ _)
  · rwa [find?_add_of_ne _ _ (Nat.ne_of_lt given.given)] at found

theorem Given.modify (given : registry.Given number property) {other : Nat} {change : α → α}
    (kept : other = number → ∀ object, property object → property (change object)) :
    (registry.modify other change).Given number property := by
  refine ⟨Nat.lt_of_lt_of_eq given.given (List.length_modify _ _ _).symm, fun object found => ?_⟩
  rw [find?_modify] at found
  split at found
  · next same =>
      obtain ⟨before, known, rfl⟩ := Option.map_eq_some_iff.1 found
      exact kept same before (given.holds before known)
  · exact given.holds object found

theorem Given.remove (given : registry.Given number property) (other : Nat) :
    (registry.remove other).Given number property := by
  refine ⟨Nat.lt_of_lt_of_eq given.given List.length_set.symm, fun object found => ?_⟩
  rw [find?_remove] at found
  split at found
  · cases found
  · exact given.holds object found

end Registry

namespace Engine

theorem given_of_follow {α : Type} {resource : Resource} {registry : Registry α}
    {handle : Handle resource} {object : α} {property : α → Prop}
    (kept : follow registry handle = some object) (holds : property object) :
    registry.Given handle.number property := by
  refine ⟨number_lt_of_follow kept, fun other found => ?_⟩
  cases (follow_eq_some.1 kept).2.symm.trans found
  exact holds

/-! ## What a handle was given out for -/

/-- The handle was given out for a result with this header. -/
abbrev Headed (engine : Engine) (handle : Handle .result) (header : ResultHeader) : Prop :=
  engine.results.Given handle.number fun native => native.header = header

/-- The handle was given out for a statement of this database. -/
abbrev PreparedOn (engine : Engine) (handle : Handle .statement) (home : Handle .database) : Prop :=
  engine.statements.Given handle.number fun stored => stored.database = home

section Given

variable {engine : Engine}

/-- **A request leaves a result its header**, or releases it. -/
theorem headed_perform {handle : Handle .result} {header : ResultHeader}
    (headed : engine.Headed handle header) (request : Request) :
    (request.perform engine).Headed handle header := by
  let Keeps (engine : Engine) : Prop := engine.Headed handle header
  refine perform_property Keeps (fun before after headed change => ?_) headed
  cases change with
  | addResult other => exact Registry.Given.add headed other
  | writeCells _ => exact Registry.Given.modify headed fun _ native same => same
  | removeResult _ => exact Registry.Given.remove headed _
  | _ => exact headed

/-- **A request leaves a statement with its database**, or releases it. -/
theorem preparedOn_perform {handle : Handle .statement} {home : Handle .database}
    (prepared : engine.PreparedOn handle home) (request : Request) :
    (request.perform engine).PreparedOn handle home := by
  let Keeps (engine : Engine) : Prop := engine.PreparedOn handle home
  refine perform_property Keeps (fun before after prepared change => ?_) prepared
  cases change with
  | addStatement stored tags => exact Registry.Given.add prepared stored
  | @setStatement _ _ _ _ stored _ _ known accepted =>
      refine Registry.Given.modify prepared fun same _ _ => ?_
      obtain ⟨_, _, _, -, -, -, rfl⟩ := StoredStatement.bind_eq_ok accepted
      exact prepared.holds stored (same ▸ (follow_eq_some.1 known).2)
  | removeStatement _ => exact Registry.Given.remove prepared _
  | _ => exact prepared

/-- What every request keeps is kept by every entry, whatever is owed. -/
theorem accounts_of_kept {property : Engine → Prop} {api : Api Engine}
    (inProcess : api.table = functionTable api.layout)
    (kept : ∀ engine, property engine → ∀ request : Request, property (request.perform engine)) :
    api.Accounts fun _ engine => property engine := by
  obtain ⟨table, layout, path⟩ := api
  obtain rfl : table = functionTable layout := inProcess
  exact {
    openDatabase := fun url options _ engine holds =>
      kept engine holds (.openDatabase layout true url options)
    closeDatabase := fun database _ engine holds =>
      kept engine holds (.closeDatabase (some database))
    lastError := fun database _ engine holds => kept engine holds (.lastError (some database))
    getAutocommit := fun database _ engine holds =>
      kept engine holds (.getAutocommit (some database) true)
    setAutocommit := fun database value _ engine holds =>
      kept engine holds (.setAutocommit (some database) value)
    query := fun database text _ engine holds =>
      kept engine holds (.query (some database) (some text) true)
    resultFetch := fun result index _ engine holds =>
      kept engine holds (.resultFetch (some result) true index)
    cleanupResult := fun database result _ engine holds =>
      kept engine holds (.cleanupResult (some database) (some result))
    prepare := fun database text _ engine holds => by
      rw [Api.foreseeing_snd]
      exact kept engine holds (.prepare (some database) (some text) true true)
    bind := fun statement datum index _ engine holds =>
      kept engine holds (.bind (some statement) (some datum) index)
    execute := fun statement _ engine holds => kept engine holds (.execute (some statement) true)
    cleanupStatement := fun database statement _ engine holds =>
      kept engine holds (.cleanupStatement (some database) (some statement))
    nullValue := fun database tag _ engine holds =>
      kept engine holds (.nullValue (some database) tag)
    writeCells := fun column cells _ engine holds => kept engine holds (.writeCells column cells) }

end Given

/-! ## Lending -/

section Lending

variable {α : Type} {resource : Resource} {loan : Handle resource → Loan} {registry : Registry α}
  {owed fewer : Multiset Loan} {handle : Handle resource}

/-- The objects of one kind that are owed are there, and each is owed once. -/
structure LendsFrom (registry : Registry α) (loan : Handle resource → Loan)
    (owed : Multiset Loan) : Prop where
  kept : ∀ handle, loan handle ∈ owed → ∃ object, follow registry handle = some object
  once : ∀ handle, owed.count (loan handle) ≤ 1

theorem LendsFrom.mono (lends : LendsFrom registry loan owed) (less : fewer ≤ owed) :
    LendsFrom registry loan fewer :=
  ⟨fun handle member => lends.kept handle (Multiset.mem_of_le less member),
    fun handle => (Multiset.count_le_of_le _ less).trans (lends.once handle)⟩

/-- An object of another kind is handed out. -/
theorem LendsFrom.other (lends : LendsFrom registry loan owed) {new : Loan}
    (apart : ∀ handle, loan handle ≠ new) : LendsFrom registry loan ({new} + owed) := by
  refine ⟨fun handle member => ?_, fun handle => ?_⟩
  · rcases Multiset.mem_add.1 member with here | earlier
    · exact absurd (Multiset.mem_singleton.1 here) (apart handle)
    · exact lends.kept handle earlier
  · rw [Multiset.count_add, Multiset.count_singleton, if_neg (apart handle), zero_add]
    exact lends.once handle

/-- An object of the kind is handed out under a number of its own. -/
theorem LendsFrom.add (lends : LendsFrom registry loan owed) (same : Function.Injective loan)
    (object : α) :
    LendsFrom (registry.add object) loan ({loan ⟨.engine, registry.nextNumber⟩} + owed) := by
  have fresh : loan ⟨.engine, registry.nextNumber⟩ ∉ owed := fun member => by
    obtain ⟨other, known⟩ := lends.kept _ member
    exact Nat.lt_irrefl _ (number_lt_of_follow known)
  refine ⟨fun handle member => ?_, fun handle => ?_⟩
  · rcases Multiset.mem_add.1 member with here | earlier
    · cases same (Multiset.mem_singleton.1 here)
      exact ⟨object, Registry.find?_add_next _ _⟩
    · obtain ⟨other, known⟩ := lends.kept handle earlier
      exact ⟨other, follow_add known object⟩
  · rw [Multiset.count_add, Multiset.count_singleton]
    split
    · next here =>
        rw [here, Multiset.count_eq_zero.2 fresh]
    · rw [zero_add]
      exact lends.once handle

theorem LendsFrom.modify (lends : LendsFrom registry loan owed) (number : Nat) (change : α → α) :
    LendsFrom (registry.modify number change) loan owed := by
  refine ⟨fun handle member => ?_, lends.once⟩
  obtain ⟨object, known⟩ := lends.kept handle member
  by_cases here : number = handle.number
  · exact ⟨change object, here ▸ follow_modify known change⟩
  · exact ⟨object, follow_modify_of_ne known here change⟩

/-- An object that is released is owed no more, and the others are there. -/
theorem LendsFrom.remove (lends : LendsFrom registry loan ({loan handle} + owed)) :
    LendsFrom (registry.remove handle.number) loan owed := by
  obtain ⟨mine, found⟩ := lends.kept handle (by simp)
  have rest : LendsFrom registry loan owed := lends.mono (Multiset.le_add_left _ _)
  refine ⟨fun other member => ?_, rest.once⟩
  obtain ⟨object, known⟩ := rest.kept other member
  refine ⟨object, follow_remove known fun same => ?_⟩
  -- the same object would be owed twice
  cases handle_eq_of_follow found known same
  have once := lends.once handle
  rw [Multiset.count_add, Multiset.count_singleton_self] at once
  have present := Multiset.count_pos.2 member
  omega

end Lending

/-- The results and the statements that are owed are there. -/
structure Lends (owed : Multiset Loan) (engine : Engine) : Prop where
  results : LendsFrom engine.results .result owed
  statements : LendsFrom engine.statements .statement owed

theorem lends_empty : Lends 0 empty :=
  ⟨⟨fun _ absent => absurd absent (Multiset.notMem_zero _), fun _ => Nat.zero_le 1⟩,
    ⟨fun _ absent => absurd absent (Multiset.notMem_zero _), fun _ => Nat.zero_le 1⟩⟩

section Entries

variable {owed fewer : Multiset Loan} {engine : Engine}

theorem Lends.mono (lends : Lends owed engine) (less : fewer ≤ owed) : Lends fewer engine :=
  ⟨lends.results.mono less, lends.statements.mono less⟩

theorem Lends.addDatabase (lends : Lends owed engine) (layout : TagLayout) (database : Database) :
    Lends ({.database layout (engine.addDatabase database).1} + owed)
      (engine.addDatabase database).2 :=
  ⟨lends.results.other fun _ => Loan.noConfusion, lends.statements.other fun _ => Loan.noConfusion⟩

theorem Lends.addResult (lends : Lends owed engine) (result : NativeResult) :
    Lends ({.result (engine.addResult result).1.handle} + owed) (engine.addResult result).2 :=
  ⟨lends.results.add (fun _ _ => Loan.result.inj) result,
    lends.statements.other fun _ => Loan.noConfusion⟩

theorem Lends.addStatement (lends : Lends owed engine) (stored : StoredStatement)
    (tags : List Int32) :
    Lends ({.statement (engine.addStatement stored tags).1.handle} + owed)
      (engine.addStatement stored tags).2 :=
  ⟨lends.results.other fun _ => Loan.noConfusion,
    lends.statements.add (fun _ _ => Loan.statement.inj) stored⟩

theorem Lends.removeResult {handle : Handle .result}
    (lends : Lends ({.result handle} + owed) engine) :
    Lends owed (engine.removeResult handle) :=
  ⟨lends.results.remove, lends.statements.mono (Multiset.le_add_left _ _)⟩

theorem Lends.removeStatement {handle : Handle .statement}
    (lends : Lends ({.statement handle} + owed) engine) :
    Lends owed (engine.removeStatement handle) :=
  ⟨lends.results.mono (Multiset.le_add_left _ _), lends.statements.remove⟩

/-- What a statement hands out is lent. -/
theorem Lends.run (lends : Lends owed engine) (home : Handle .database) (database : Database)
    (attempt : Except Failure (Database × Effect)) :
    Lends (Loan.either (fun executed => Loan.ofResult executed.result) 0
      (run home database true attempt engine).1 + owed)
      (run home database true attempt engine).2 := by
  cases attempt with
  | error failure => exact (zero_add owed).symm ▸ ⟨lends.results, lends.statements⟩
  | ok answer =>
      obtain ⟨changed, effect⟩ := answer
      have kept : Lends owed (engine.setDatabase home changed) := ⟨lends.results, lends.statements⟩
      cases effect with
      | rows result => exact kept.addResult result
      | schema => exact kept.addResult NativeResult.withoutColumns
      | affected count =>
          rw [← zero_add owed] at kept
          exact kept

theorem lends_query (home : Handle .database) (text : NativeText) :
    Trades Lends (query (some home) (some text) true) 0
      (Loan.either (fun executed => Loan.ofResult executed.result) 0) := by
  intro others engine lends
  cases found : engine.database? (some home) with
  | none =>
      simp only [query, onDatabase, found]
      exact lends
  | some database =>
      rw [zero_add] at lends
      simp only [query, onDatabase, found]
      exact lends.run home database _

theorem lends_execute (handle : Handle .statement) :
    Trades Lends (execute (some handle) true) 0
      (Loan.either (fun executed => Loan.ofResult executed.result) 0) := by
  intro others engine lends
  cases known : engine.statement? (some handle) with
  | none =>
      simp only [execute, onStatement, known]
      exact lends
  | some stored =>
      cases found : engine.database? (some stored.database) with
      | none =>
          simp only [execute, onStatement, known, found]
          exact lends
      | some database =>
          rw [zero_add] at lends
          simp only [execute, onStatement, known, found]
          exact lends.run stored.database database _

theorem lends_cleanupResult {before : Multiset Loan} (home : Handle .database)
    (handle : Handle .result) :
    Trades Lends (cleanupResult (some home) (some handle)) ({.result handle} + before)
      fun _ => before := by
  intro others engine lends
  rw [add_assoc] at lends
  refine onDatabase_property (Lends (before + others)) (lends.mono (Multiset.le_add_left _ _)) ?_
  exact fun _ _ _ => lends.removeResult

theorem lends_cleanupStatement {before : Multiset Loan} (home : Handle .database)
    (handle : Handle .statement) :
    Trades Lends (cleanupStatement (some home) (some handle)) ({.statement handle} + before)
      fun _ => before := by
  intro others engine lends
  rw [add_assoc] at lends
  refine onDatabase_property (Lends (before + others)) (lends.mono (Multiset.le_add_left _ _)) ?_
  exact fun _ _ _ => lends.removeStatement

/-- A statement is handed out along with its description, which is there whether or not the client
looks at it. -/
theorem lends_prepare {before : Multiset Loan} (layout : TagLayout) (home : Handle .database)
    (text : NativeText) :
    Trades Lends ((Api.ofTable (functionTable layout) layout).foreseeing (some home) (some text))
      before (Loan.either (fun answer => answer.1.loans layout answer.2 + before) before) := by
  intro others engine lends
  let api : Api Engine := Api.ofTable (functionTable layout) layout
  cases found : engine.database? (some home) with
  | none =>
      have refused : api.table.prepare (some home) (some text) engine =
          (.error (invalid .database), engine) := prepare_of_closed found
      rw [Api.foreseeing_of_error refused]
      exact lends
  | some database =>
      cases attempt : (do database.prepare home (← Statement.parse text.toString)) with
      | error failure =>
          have refused : api.table.prepare (some home) (some text) engine =
              refuse home database failure engine := prepare_of_error found attempt
          rw [Api.foreseeing_of_error refused]
          exact ⟨lends.results, lends.statements⟩
      | ok preparation =>
          let added := engine.addStatement preparation.stored preparation.tags
          let shown := added.2.addResult preparation.description
          have handed : api.table.prepare (some home) (some text) engine =
              (.ok ⟨some added.1, some shown.1⟩, shown.2) := prepare_of_ok found attempt
          have both := (lends.addStatement preparation.stored preparation.tags).addResult
            preparation.description
          rw [Api.foreseeing_of_ok handed]
          refine both.mono ?_
          rw [← add_assoc, ← add_assoc]
          refine Multiset.add_le_add_right (Multiset.add_le_add_right ?_)
          show {Loan.statement added.1.handle} + _ ≤ _
          rw [add_comm]
          exact Multiset.add_le_add_right (LiveStatement.description_le _ (some shown.1))

theorem lends_resultFetch (handle : Handle .result) (index : Nat) :
    Trades Lends (resultFetch (some handle) true index) 0 fun _ => 0 := by
  intro others engine lends
  cases kept : engine.result? (some handle) with
  | none =>
      simp only [resultFetch, kept]
      exact lends
  | some result =>
      cases there : result.columns[index]? with
      | none =>
          simp only [resultFetch, kept, there]
          exact lends
      | some descriptor =>
          simp only [resultFetch, kept, there]
          exact ⟨lends.results, lends.statements⟩

/-- **The engine lends what is owed**: no result or statement that a client still holds is
forgotten. -/
theorem accounts_lends (layout : TagLayout) :
    (Api.ofTable (functionTable layout) layout).Accounts Lends where
  openDatabase url options := by
    intro others engine lends
    rw [zero_add] at lends
    show Lends (Loan.ofDatabase layout (openDatabase layout true url options engine).1.2 + others)
      (openDatabase layout true url options engine).2
    unfold openDatabase
    cases refusal? url options with
    | none => exact lends.addDatabase layout _
    | some failure => exact lends.addDatabase layout _
  closeDatabase home := by
    intro others engine lends
    rw [zero_add]
    have rest := lends.mono (Multiset.le_add_left others _)
    exact ⟨rest.results, rest.statements⟩
  lastError home := by
    intro others engine lends
    show Lends (0 + others) (lastError (some home) engine).2
    unfold lastError
    split <;> exact lends
  getAutocommit home := fun others engine lends =>
    onDatabase_property (Lends (0 + others)) lends fun _ _ _ => lends
  setAutocommit home value := fun others engine lends =>
    onDatabase_property (Lends (0 + others)) lends fun _ _ _ => ⟨lends.results, lends.statements⟩
  query := lends_query
  resultFetch := lends_resultFetch
  cleanupResult home handle := lends_cleanupResult home handle
  prepare home text := lends_prepare layout home text
  bind handle datum index := by
    intro others engine lends
    refine onStatement_property (Lends (0 + others)) lends fun _ stored _ _ found => ?_
    cases stored.bind (some datum) index with
    | ok bound => exact ⟨lends.results, lends.statements.modify _ _⟩
    | error failure => exact ⟨lends.results, lends.statements⟩
  execute := lends_execute
  cleanupStatement home handle := lends_cleanupStatement home handle
  nullValue home tag := fun others engine lends => lends
  writeCells column cells := fun others engine lends =>
    ⟨lends.results.modify _ _, lends.statements⟩

end Entries

end Engine

end ColumnStore
