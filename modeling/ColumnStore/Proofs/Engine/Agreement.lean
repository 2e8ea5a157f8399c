import ColumnStore.Proofs.Engine.Results
import ColumnStore.Proofs.Lists
import ColumnStore.Proofs.Native.FunctionTable

/-!
# Engines of two layouts

Two engines agree if they keep the same objects under the same numbers, up to the numbering of
type tags. Every entry point keeps this up and answers the same, as long as no text is run that
makes a column of a type that is not portable. So the two engines are libraries that agree.

Main result: `Engine.agree_functionTable`.
-/

set_option autoImplicit false

namespace ColumnStore

/-! ## Registries -/

namespace Registry

variable {α : Type} {same : α → α → Prop} {registry other : Registry α}

/-- The same numbers are taken, by objects that agree. -/
def Agrees (same : α → α → Prop) (registry other : Registry α) : Prop :=
  List.Forall₂ (Option.Rel same) registry.slots other.slots

theorem Agrees.nextNumber (agree : registry.Agrees same other) :
    registry.nextNumber = other.nextNumber :=
  List.Forall₂.length_eq agree

theorem Agrees.find? (agree : registry.Agrees same other) (number : Nat) :
    Option.Rel same (registry.find? number) (other.find? number) := by
  obtain ⟨slots⟩ := registry
  obtain ⟨others⟩ := other
  unfold Agrees at agree
  dsimp only at agree
  induction agree generalizing number with
  | nil => exact .none
  | cons head tail ih =>
      cases number with
      | zero => exact head
      | succ number => exact ih number

theorem Agrees.add (agree : registry.Agrees same other) {object second : α}
    (new : same object second) : (registry.add object).Agrees same (other.add second) :=
  List.rel_append agree (.cons (.some new) .nil)

theorem Agrees.modify (agree : registry.Agrees same other) (number : Nat) {change second : α → α}
    (kept : ∀ object another, registry.find? number = some object →
      other.find? number = some another → same object another →
      same (change object) (second another)) :
    (registry.modify number change).Agrees same (other.modify number second) := by
  apply List.Forall₂.modify agree number
  intro slot another here there agree
  cases agree with
  | none => exact .none
  | some agree =>
      refine .some (kept _ _ ?_ ?_ agree)
      · rw [Registry.find?, here, Option.join_some]
      · rw [Registry.find?, there, Option.join_some]

theorem Agrees.remove (agree : registry.Agrees same other) (number : Nat) :
    (registry.remove number).Agrees same (other.remove number) := by
  obtain ⟨slots⟩ := registry
  obtain ⟨others⟩ := other
  unfold Agrees at agree ⊢
  unfold Registry.remove
  dsimp only at agree ⊢
  induction agree generalizing number with
  | nil => exact .nil
  | cons head tail ih =>
      cases number with
      | zero => exact .cons .none tail
      | succ number => exact .cons head (ih number)

end Registry

/-! ## Engines -/

/-- The same statement with the same values bound, which makes no column that is not portable. -/
def StoredStatement.Agrees (stored other : StoredStatement) : Prop :=
  stored = other ∧ stored.statement.Portable

namespace Engine

/-- The same objects under the same numbers, up to the numbering of type tags. -/
structure Agrees (left right : TagLayout) (engine other : Engine) : Prop where
  databases : engine.databases.Agrees (Database.Agrees left right) other.databases
  results : engine.results.Agrees (NativeResult.Agrees left right) other.results
  statements : engine.statements.Agrees StoredStatement.Agrees other.statements
  counters : engine.counters = other.counters

variable {left right : TagLayout}

theorem agrees_empty (left right : TagLayout) : Agrees left right empty empty :=
  ⟨.nil, .nil, .nil, rfl⟩

theorem agree_follow {α : Type} {same : α → α → Prop} {registry other : Registry α}
    (agree : registry.Agrees same other) {resource : Resource} (handle : Handle resource) :
    Option.Rel same (follow registry handle) (follow other handle) := by
  unfold follow
  split
  · exact agree.find? _
  · exact .none

section Objects

variable {engine other : Engine} {database second : Database}

theorem Agrees.database? (agree : engine.Agrees left right other)
    (given : Option (Handle .database)) :
    Option.Rel (Database.Agrees left right) (engine.database? given) (other.database? given) := by
  cases given with
  | none => exact .none
  | some handle => exact agree_follow agree.databases handle

theorem Agrees.result? (agree : engine.Agrees left right other)
    (given : Option (Handle .result)) :
    Option.Rel (NativeResult.Agrees left right) (engine.result? given) (other.result? given) := by
  cases given with
  | none => exact .none
  | some handle => exact agree_follow agree.results handle

theorem Agrees.statement? (agree : engine.Agrees left right other)
    (given : Option (Handle .statement)) :
    Option.Rel StoredStatement.Agrees (engine.statement? given) (other.statement? given) := by
  cases given with
  | none => exact .none
  | some handle => exact agree_follow agree.statements handle

theorem Agrees.addDatabase (agree : engine.Agrees left right other)
    (same : Database.Agrees left right database second) :
    (engine.addDatabase database).1 = (other.addDatabase second).1 ∧
      (engine.addDatabase database).2.Agrees left right (other.addDatabase second).2 := by
  refine ⟨?_, agree.databases.add same, agree.results, agree.statements, ?_⟩
  · simp only [Engine.addDatabase, agree.databases.nextNumber]
  · simp only [Engine.addDatabase, agree.counters]

theorem Agrees.addResult (agree : engine.Agrees left right other) {result answer : NativeResult}
    (same : result.Agrees left right answer) :
    (engine.addResult result).1 = (other.addResult answer).1 ∧
      (engine.addResult result).2.Agrees left right (other.addResult answer).2 := by
  refine ⟨?_, agree.databases, agree.results.add same, agree.statements, ?_⟩
  · simp only [Engine.addResult, agree.results.nextNumber, same.header]
  · simp only [Engine.addResult, agree.counters]

theorem Agrees.addStatement (agree : engine.Agrees left right other) {stored kept : StoredStatement}
    (same : stored.Agrees kept) {tags others : List Int32}
    (tagged : List.Forall₂ (SameTag left right) tags others) :
    (engine.addStatement stored tags).1.Agrees left right (other.addStatement kept others).1 ∧
      (engine.addStatement stored tags).2.Agrees left right (other.addStatement kept others).2 := by
  refine ⟨⟨?_, ?_, .some tagged⟩, agree.databases, agree.results, agree.statements.add same, ?_⟩
  · simp only [Engine.addStatement, agree.statements.nextNumber]
  · simp only [Engine.addStatement, same.1]
  · simp only [Engine.addStatement, agree.counters]

theorem Agrees.setDatabase (agree : engine.Agrees left right other)
    (same : Database.Agrees left right database second) (handle : Handle .database) :
    (engine.setDatabase handle database).Agrees left right (other.setDatabase handle second) :=
  ⟨agree.databases.modify _ fun _ _ _ _ _ => same, agree.results, agree.statements, agree.counters⟩

theorem Agrees.setStatement (agree : engine.Agrees left right other)
    {stored kept : StoredStatement} (same : stored.Agrees kept) (handle : Handle .statement) :
    (engine.setStatement handle stored).Agrees left right (other.setStatement handle kept) :=
  ⟨agree.databases, agree.results, agree.statements.modify _ fun _ _ _ _ _ => same, agree.counters⟩

/-- Recording a failure. -/
theorem Agrees.fail (agree : engine.Agrees left right other)
    (same : Database.Agrees left right database second) (handle : Handle .database)
    (failure : Failure) :
    (engine.fail handle database failure).1 = (other.fail handle second failure).1 ∧
      (engine.fail handle database failure).2.Agrees left right
        (other.fail handle second failure).2 := by
  exact ⟨(same.fail failure).1, agree.setDatabase (same.fail failure).2 handle⟩

end Objects

/-! ## Entry points -/

section EntryPoints

variable {α : Type} {same : α → α → Prop} {database second : Database}

/-- A call on a database goes on with databases that agree. -/
theorem agree_onDatabase (given : Option (Handle .database))
    {go other : Handle .database → Database → StateM Engine (Reply α)}
    (each : ∀ handle database second, Database.Agrees left right database second →
      Agree (Agrees left right) (Except.Agree same) (go handle database) (other handle second)) :
    Agree (Agrees left right) (Except.Agree same) (onDatabase given go)
      (onDatabase given other) := by
  intro engine another start
  have found := start.database? given
  unfold onDatabase
  generalize engine.database? given = first at found ⊢
  generalize another.database? given = next at found ⊢
  cases found with
  | none => cases given <;> exact ⟨.error _, start⟩
  | some agree =>
      cases given with
      | none => exact ⟨.error _, start⟩
      | some handle => exact each handle _ _ agree _ _ start

/-- A call on a statement goes on with statements and databases that agree. -/
theorem agree_onStatement (given : Option (Handle .statement))
    {go other : Handle .statement → StoredStatement → Database → StateM Engine (Reply α)}
    (each : ∀ handle stored kept database second, StoredStatement.Agrees stored kept →
      Database.Agrees left right database second →
      Agree (Agrees left right) (Except.Agree same) (go handle stored database)
        (other handle kept second)) :
    Agree (Agrees left right) (Except.Agree same) (onStatement given go)
      (onStatement given other) := by
  intro engine another start
  have known := start.statement? given
  unfold onStatement
  generalize engine.statement? given = first at known ⊢
  generalize another.statement? given = next at known ⊢
  cases known with
  | none => cases given <;> exact ⟨.error _, start⟩
  | @some stored kept agree =>
      cases given with
      | none => exact ⟨.error _, start⟩
      | some handle =>
          have home := start.database? (some stored.database)
          dsimp only
          rw [show kept.database = stored.database by rw [agree.1]]
          generalize engine.database? (some stored.database) = database at home ⊢
          generalize another.database? (some stored.database) = second at home ⊢
          cases home with
          | none => exact ⟨.error _, start⟩
          | some same => exact each handle _ _ _ _ agree same _ _ start

theorem agree_refuse (agree : Database.Agrees left right database second)
    (handle : Handle .database) (failure : Failure) :
    Agree (Agrees left right) (Except.Agree same) (refuse handle database failure)
      (refuse handle second failure) := by
  intro engine another start
  obtain ⟨texts, failed⟩ := start.fail agree handle failure
  refine ⟨?_, failed⟩
  show Except.Agree same (.error (engine.fail handle database failure).1)
    (.error (another.fail handle second failure).1)
  rw [texts]
  exact .error _

theorem agree_handOut {effect result : Effect} (agree : Effect.Agrees left right effect result)
    (wanted : Bool) :
    Agree (Agrees left right) (Except.Agree Eq) (handOut effect wanted)
      (handOut result wanted) := by
  intro engine another start
  unfold handOut
  cases agree with
  | affected count => cases wanted <;> exact ⟨.ok rfl, start⟩
  | schema =>
      cases wanted with
      | false => exact ⟨.ok rfl, start⟩
      | true =>
          have empty : NativeResult.Agrees left right .withoutColumns .withoutColumns :=
            ⟨rfl, .nil⟩
          obtain ⟨handed, kept⟩ := start.addResult empty
          exact ⟨.ok (by rw [handed]), kept⟩
  | @rows first next same =>
      cases wanted with
      | false => exact ⟨.ok (by rw [same.header]), start⟩
      | true =>
          obtain ⟨handed, kept⟩ := start.addResult same
          exact ⟨.ok (by rw [handed, same.header]), kept⟩

/-- Running a statement. -/
theorem agree_run (agree : Database.Agrees left right database second) (handle : Handle .database)
    (wanted : Bool) {attempt other : Except Failure (Database × Effect)}
    (attempts : Except.Agree (fun answer result => Database.Agrees left right answer.1 result.1 ∧
      Effect.Agrees left right answer.2 result.2) attempt other) :
    Agree (Agrees left right) (Except.Agree Eq) (run handle database wanted attempt)
      (run handle second wanted other) := by
  cases attempts with
  | error failure => exact agree_refuse agree handle failure
  | ok answers =>
      intro engine another start
      exact agree_handOut answers.2 wanted _ _ (start.setDatabase answers.1 handle)

theorem agree_openDatabase (place : Bool) (url : Option NativeText)
    (options : Option NativeOptions) :
    Agree (Agrees left right) Eq (openDatabase left place url options)
      (openDatabase right place url options) := by
  intro engine another start
  have new := Database.agrees_new left right
  unfold openDatabase
  cases place with
  | false => exact ⟨rfl, start⟩
  | true =>
      cases refusal? url options with
      | none =>
          obtain ⟨handed, kept⟩ := start.addDatabase new
          exact ⟨congrArg (fun handle => ((0 : Int32), some handle)) handed, kept⟩
      | some failure =>
          obtain ⟨handed, kept⟩ := start.addDatabase (new.fail failure).2
          exact ⟨congrArg (fun handle => ((-2 : Int32), some handle)) handed, kept⟩

theorem agree_closeDatabase (given : Option (Handle .database)) :
    Agree (Agrees left right) Eq (closeDatabase given) (closeDatabase given) := by
  intro engine another start
  cases given with
  | none => exact ⟨rfl, start⟩
  | some handle =>
      refine ⟨rfl, start.databases.remove _, start.results, start.statements, ?_⟩
      simp only [closeDatabase, removeDatabase, start.counters]

theorem agree_lastError (given : Option (Handle .database)) :
    Agree (Agrees left right) Eq (lastError given) (lastError given) := by
  intro engine another start
  have found := start.database? given
  unfold lastError
  generalize engine.database? given = first at found ⊢
  generalize another.database? given = next at found ⊢
  cases found with
  | none => exact ⟨rfl, start⟩
  | some agree =>
      obtain ⟨_, rfl, _⟩ := agree
      exact ⟨rfl, start⟩

theorem agree_getAutocommit (given : Option (Handle .database)) (place : Bool) :
    Agree (Agrees left right) (Except.Agree Eq) (getAutocommit given place)
      (getAutocommit given place) := by
  apply agree_onDatabase given
  intro handle database second agree
  split
  · exact agree_refuse agree handle _
  · obtain ⟨_, rfl, _⟩ := agree
    exact agree_pure (.ok rfl)

theorem agree_setAutocommit (given : Option (Handle .database)) (value : Int32) :
    Agree (Agrees left right) (Except.Agree Eq) (setAutocommit given value)
      (setAutocommit given value) := by
  apply agree_onDatabase given
  intro handle database second agree engine another start
  have changed : Database.Agrees left right { database with autocommit := value ≠ 0 }
      { second with autocommit := value ≠ 0 } := by
    obtain ⟨layout, rfl, portable⟩ := agree
    exact ⟨layout, rfl, portable⟩
  exact ⟨.ok rfl, start.setDatabase changed handle⟩

/-- A text that spells a portable statement. -/
theorem agree_query (given : Option (Handle .database)) {text : NativeText}
    (portable : PortableText text.toString) (wanted : Bool) :
    Agree (Agrees left right) (Except.Agree Eq) (query given (some text) wanted)
      (query given (some text) wanted) := by
  apply agree_onDatabase given
  intro handle database second agree
  refine agree_run agree handle wanted ?_
  refine Except.Agree.bind_self fun statement spelled => ?_
  exact agree.execute (portable statement spelled) []

/-- A column that is handed out is one of the result asked for. -/
theorem result_of_resultFetch {engine next : Engine} {given : Option (Handle .result)}
    {place : Bool} {index : Nat} {column : LiveColumn}
    (handed : resultFetch given place index engine = (.ok (some column), next)) :
    given = some column.result := by
  unfold resultFetch at handed
  split at handed
  · dsimp only at handed
    split at handed
    · cases handed
    · split at handed <;> cases handed
      rfl
  · cases handed

/-- A column of a result that is found is handed out, and gets other cells of its type. -/
theorem agree_rewrite_found {change second : LiveColumn → ColumnCells}
    (changes : ∀ column another, LiveColumn.Agrees left right column another →
      change column = second another ∧ (change column).type = column.descriptor.cells.type)
    {engine another : Engine} (start : engine.Agrees left right another)
    {handle : Handle .result} {result other : NativeResult}
    (here : engine.result? (some handle) = some result)
    (there : another.result? (some handle) = some other)
    (agree : result.Agrees left right other) (index : Nat) :
    Except.Agree (Option.Rel (LiveColumn.Agrees left right))
        ((functionTable left).rewrite change (some handle) index engine).1
        ((functionTable right).rewrite second (some handle) index another).1 ∧
      ((functionTable left).rewrite change (some handle) index engine).2.Agrees left right
        ((functionTable right).rewrite second (some handle) index another).2 := by
  have length := agree.columns.length_eq
  rcases Nat.lt_or_ge index result.columns.length with inside | outside
  · have within : index < other.columns.length := length ▸ inside
    have live : LiveColumn.Agrees left right ⟨handle, index, result.columns[index]⟩
        ⟨handle, index, other.columns[index]⟩ := ⟨rfl, rfl, agree.columns.get inside within⟩
    obtain ⟨cells, type⟩ := changes _ _ live
    have first := resultFetch_of_column here (List.getElem?_eq_getElem inside)
    have next := resultFetch_of_column there (List.getElem?_eq_getElem within)
    rw [FunctionTable.rewrite_of_column first, FunctionTable.rewrite_of_column next, ← cells]
    refine ⟨.ok (.some live), start.databases, start.results.modify _ ?_, start.statements, ?_⟩
    · intro object kept known same agreeing
      rw [(follow_eq_some.1 here).2] at known
      cases known
      refine ⟨agreeing.header, agreeing.columns.modify index ?_⟩
      intro descriptor original first _ tags
      rw [List.getElem?_eq_getElem inside] at first
      cases first
      exact tags.write type
    · show engine.countFetch.counters = another.countFetch.counters
      simp only [countFetch, start.counters]
  · have first := resultFetch_of_outside here outside
    have next := resultFetch_of_outside there (length ▸ outside)
    rw [FunctionTable.rewrite_of_error first, FunctionTable.rewrite_of_error next, length]
    exact ⟨.error _, start⟩

/-- A column is handed out, and gets other cells of its type. -/
theorem agree_rewrite {change second : LiveColumn → ColumnCells}
    (changes : ∀ column another, LiveColumn.Agrees left right column another →
      change column = second another ∧ (change column).type = column.descriptor.cells.type)
    (given : Option (Handle .result)) (index : Nat) :
    Agree (Agrees left right) (Except.Agree (Option.Rel (LiveColumn.Agrees left right)))
      ((functionTable left).rewrite change given index)
      ((functionTable right).rewrite second given index) := by
  intro engine another start
  have found := start.result? given
  cases here : engine.result? given with
  | none =>
      rw [here] at found
      cases there : another.result? given with
      | some result =>
          rw [there] at found
          cases found
      | none =>
          have first := resultFetch_of_lost here true index
          have next := resultFetch_of_lost there true index
          rw [FunctionTable.rewrite_of_error first, FunctionTable.rewrite_of_error next]
          exact ⟨.error _, start⟩
  | some result =>
      rw [here] at found
      cases there : another.result? given with
      | none =>
          rw [there] at found
          cases found
      | some other =>
          rw [there] at found
          obtain ⟨handle, rfl⟩ : ∃ handle, given = some handle := by
            cases given with
            | none => cases here
            | some handle => exact ⟨handle, rfl⟩
          cases found with
          | some agree => exact agree_rewrite_found changes start here there agree index

theorem agree_cleanupResult (given : Option (Handle .database))
    (result : Option (Handle .result)) :
    Agree (Agrees left right) (Except.Agree Eq) (cleanupResult given result)
      (cleanupResult given result) := by
  apply agree_onDatabase given
  intro handle database second agree
  cases result with
  | none => exact agree_refuse agree handle _
  | some result =>
      intro engine another start
      refine ⟨.ok rfl, start.databases, start.results.remove _, start.statements, ?_⟩
      simp only [removeResult, start.counters]

theorem agree_prepare (given : Option (Handle .database)) {text : NativeText}
    (portable : PortableText text.toString) (place wanted : Bool) :
    Agree (Agrees left right) (Except.Agree (Prepared.Agrees left right))
      (prepare given (some text) place wanted) (prepare given (some text) place wanted) := by
  apply agree_onDatabase given
  intro handle database second agree
  have attempts : Except.Agree (Preparation.Agrees left right)
      (do database.prepare handle (← Statement.parse text.toString))
      (do second.prepare handle (← Statement.parse text.toString)) := by
    refine Except.Agree.bind_self fun statement spelled => ?_
    exact agree.prepare handle (portable statement spelled)
  split
  · exact agree_refuse agree handle _
  · dsimp only
    generalize (do database.prepare handle (← Statement.parse text.toString)) = attempt
      at attempts ⊢
    generalize (do second.prepare handle (← Statement.parse text.toString)) = other at attempts ⊢
    cases attempts with
    | error failure => exact agree_refuse agree handle failure
    | @ok preparation answer same =>
        intro engine another start
        have stored : preparation.stored.Agrees answer.stored := ⟨same.stored, same.portable⟩
        obtain ⟨handed, kept⟩ := start.addStatement stored same.tags
        cases wanted with
        | false => exact ⟨.ok ⟨.some handed, rfl⟩, kept⟩
        | true =>
            obtain ⟨described, final⟩ := kept.addResult same.description
            exact ⟨.ok ⟨.some handed, congrArg some described⟩, final⟩

theorem agree_bind (given : Option (Handle .statement)) (datum : Option NativeDatum) (index : Nat) :
    Agree (Agrees left right) (Except.Agree Eq) (bind given datum index)
      (bind given datum index) := by
  apply agree_onStatement given
  intro handle stored kept database second same agree
  obtain ⟨rfl, portable⟩ := same
  cases accepted : stored.bind datum index with
  | error failure => exact agree_refuse agree _ failure
  | ok bound =>
      intro engine another start
      have still : bound.Agrees bound := by
        obtain ⟨_, _, _, -, -, -, rfl⟩ := StoredStatement.bind_eq_ok accepted
        exact ⟨rfl, portable⟩
      exact ⟨.ok rfl, start.setStatement still handle⟩

theorem agree_execute (given : Option (Handle .statement)) (wanted : Bool) :
    Agree (Agrees left right) (Except.Agree Eq) (execute given wanted) (execute given wanted) := by
  apply agree_onStatement given
  intro handle stored kept database second same agree
  obtain ⟨rfl, portable⟩ := same
  refine agree_run agree _ wanted ?_
  refine Except.Agree.bind_self fun values _ => ?_
  exact agree.execute portable values

theorem agree_cleanupStatement (given : Option (Handle .database))
    (statement : Option (Handle .statement)) :
    Agree (Agrees left right) (Except.Agree Eq) (cleanupStatement given statement)
      (cleanupStatement given statement) := by
  apply agree_onDatabase given
  intro handle database second agree
  cases statement with
  | none => exact agree_refuse agree handle _
  | some statement =>
      intro engine another start
      refine ⟨.ok rfl, start.databases, start.results, start.statements.remove _, ?_⟩
      simp only [removeStatement, start.counters]

/-- Tags of one type lead to one datum. -/
theorem agree_nullValue (given : Option (Handle .database)) {tag other : Int32}
    (same : SameTag left right tag other) :
    Agree (Agrees left right) (Except.Agree Eq) (nullValue given tag) (nullValue given other) := by
  intro engine another start
  have found := start.database? given
  refine ⟨?_, start⟩
  obtain ⟨type, _, one, two⟩ := same
  unfold nullValue
  dsimp only
  generalize engine.database? given = first at found ⊢
  generalize another.database? given = next at found ⊢
  cases found with
  | none => exact .ok rfl
  | some agree =>
      obtain ⟨rfl, rfl, _⟩ := agree
      dsimp only
      rw [one, two]
      exact .ok rfl

end EntryPoints

/-- **Engines of two layouts are libraries that agree.** -/
theorem agree_functionTable (left right : TagLayout) :
    FunctionTable.Agrees (Agrees left right) left right (functionTable left)
      (functionTable right) where
  openDatabase url options := agree_openDatabase true url options
  closeDatabase := agree_closeDatabase
  lastError := agree_lastError
  getAutocommit database := agree_getAutocommit database true
  setAutocommit := agree_setAutocommit
  query database _ portable := agree_query database portable true
  rewrite result index _ _ changes := agree_rewrite changes result index
  cleanupResult := agree_cleanupResult
  prepare database _ portable := agree_prepare database portable true true
  bind := agree_bind
  execute statement := agree_execute statement true
  cleanupStatement := agree_cleanupStatement
  nullValue database _ _ same := agree_nullValue database same

end Engine

end ColumnStore
