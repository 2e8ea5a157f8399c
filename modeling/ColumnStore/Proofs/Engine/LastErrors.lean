import ColumnStore.Proofs.Column.Gathering
import ColumnStore.Proofs.Engine.Results
import ColumnStore.Proofs.Engine.Statements

/-!
# What a database was last told

A database keeps the text of its latest failure. A request that is made for an open database, with
handles that lead somewhere, records the text that it is answered with in this database and in no
other, and if it succeeds it records nothing (`Engine.Tells`). What is recorded and what is
answered is one text, wherever the failure arose: in the reader of statements, in the tables, or in
the values that are bound.

Fetching is the request that records nothing when it fails. It does not fail on results of the
engine: they have as many columns as they report, each with a buffer (`NativeResult.Intact`), and
what is written back to them leaves it so.

Main results: `Engine.tells_query`, `Engine.tells_prepare`, `Engine.tells_bind` and
`Engine.tells_execute`.
-/

set_option autoImplicit false

namespace ColumnStore

/-! ## Results that can be fetched -/

/-- The result has as many columns as it reports, and the cells of each are in a buffer. -/
structure NativeResult.Intact (native : NativeResult) : Prop where
  length_eq : native.columns.length = native.header.columnCount
  buffered : ∀ descriptor ∈ native.columns, descriptor.cells.hasBuffer = true

theorem OutputColumn.hasBuffer_of_cells {column : OutputColumn} {values : List Value}
    {cells : ColumnCells} (laid : column.cells values = .ok cells) : cells.hasBuffer = true := by
  cases storage : column.type.storage with
  | fixed kind =>
      rw [cells_fixed storage laid]
      rfl
  | boxed kind =>
      obtain ⟨list, _, rfl⟩ := cells_boxed storage laid
      rfl
  | unknown =>
      simp only [OutputColumn.cells, storage] at laid
      cases laid

/-- What the engine lays out is intact. -/
theorem NativeResult.intact_ofRows {layout : TagLayout} {name : String}
    {columns : List OutputColumn} {rows : List Row} {native : NativeResult}
    (laid : ofRows layout name columns rows = .ok native) : native.Intact := by
  obtain ⟨label, _, laid⟩ := Except.bind_eq_ok.1 laid
  obtain ⟨descriptors, each, whole⟩ := Except.bind_eq_ok.1 laid
  cases whole
  refine ⟨rfl, fun descriptor member => ?_⟩
  obtain ⟨entry, _, made⟩ := Except.exists_of_mem_mapM each member
  exact OutputColumn.hasBuffer_of_cells (OutputColumn.laidOut made).2.2.2

theorem NativeResult.intact_withoutColumns : withoutColumns.Intact :=
  ⟨rfl, fun _ absent => absurd absent List.not_mem_nil⟩

/-- A pass over cells in a buffer leaves cells in a buffer. -/
theorem Descriptor.hasBuffer_materialize {descriptor : Descriptor}
    (buffered : descriptor.cells.hasBuffer = true) (layout : TagLayout) (index : Nat) :
    (descriptor.materialize layout index).2.cells.hasBuffer = true := by
  cases pass : (descriptor.materialize layout index).1 with
  | error error =>
      rw [materialize_snd_eq_passed, passed_of_refuses (materialize_eq_error.1 pass)]
      exact buffered
  | ok column =>
      rcases materialize_cases pass with
        ⟨kind, ⟨storage, test⟩, view, after, _, laid, done, _, left⟩ | ⟨_, _, _, _, _, left⟩
      · rw [laid] at buffered
        cases storage with
        | missing count => cases buffered
        | buffer cells =>
            rw [FixedColumn.ofCells_buffer _ _ rfl] at done
            cases done
            rw [left]
            rfl
      · rw [left]
        exact buffered

/-- A pass over cells in a buffer fails, if it does, with an error of the client. -/
theorem Descriptor.failsFor_materialize {descriptor : Descriptor}
    (buffered : descriptor.cells.hasBuffer = true) (layout : TagLayout) (index : Nat) :
    Except.FailsFor (fun error => error.isNative = false)
      (descriptor.materialize layout index).1 := by
  intro error failed
  cases materialize_eq_error.1 failed with
  | unsupported => rfl
  | stopped => rfl
  | bufferless named laid rows =>
      rw [laid] at buffered
      cases buffered

namespace Engine

/-- All results can be fetched. -/
abbrev Intact (engine : Engine) : Prop :=
  engine.results.All NativeResult.Intact

theorem intact_empty : empty.Intact :=
  Registry.all_empty

/-- The engine keeps the result, with the header that it was handed out with. -/
def Shows (engine : Engine) (live : LiveResult) : Prop :=
  ∃ native, engine.result? (some live.handle) = some native ∧ native.header = live.header

/-- Cells in a buffer are written to a column. -/
theorem Intact.writeCells {engine : Engine} (intact : engine.Intact) (column : LiveColumn)
    {cells : ColumnCells} (buffered : cells.hasBuffer = true) :
    (writeCells column cells engine).2.Intact := by
  refine Registry.All.modify intact fun native known => ⟨?_, fun descriptor member => ?_⟩
  · exact (List.length_modify ..).trans known.length_eq
  · obtain ⟨index, found⟩ := List.mem_iff_getElem?.1 member
    rw [List.getElem?_modify] at found
    obtain ⟨before, there, rfl⟩ := Option.map_eq_some_iff.1 found
    split
    · exact buffered
    · exact known.buffered before (List.mem_of_getElem? there)

end Engine

/-! ## Records -/

/-- The text of the latest failure, as a caller reads it. -/
def Database.told (database : Database) : Option String :=
  database.lastError.map NativeText.toString

/-- The text that a request is answered with, if it fails. -/
def Reply.text? {α : Type} : Reply α → Option String
  | .ok _ => none
  | .error text => some text.toString

namespace Engine

/-- What is open stays open with the same latest failure, but one database may have been told of
another one. -/
def Records (home : Handle .database) (latest : Option String) (before after : Engine) : Prop :=
  ∀ ⦃handle : Handle .database⦄ ⦃database : Database⦄,
    before.database? (some handle) = some database →
    ∃ changed, after.database? (some handle) = some changed ∧
      changed.told = if handle = home then latest.or database.told else database.told

section Records

variable {home : Handle .database} {latest later : Option String} {engine reached final : Engine}
  {database changed : Database}

/-- Nothing is recorded where the databases stay as they are. -/
theorem records_of_databases (same : reached.databases = engine.databases) :
    Records home none engine reached := by
  intro handle database found
  refine ⟨database, by rwa [database?, same], ?_⟩
  split <;> rfl

theorem Records.refl (home : Handle .database) (engine : Engine) :
    Records home none engine engine :=
  records_of_databases rfl

/-- Of two failures the later is the latest. -/
theorem Records.trans (first : Records home latest engine reached)
    (second : Records home later reached final) : Records home (later.or latest) engine final := by
  intro handle database found
  obtain ⟨middle, there, told⟩ := first found
  obtain ⟨last, known, again⟩ := second there
  refine ⟨last, known, ?_⟩
  rw [again, told]
  split
  · rw [Option.or_assoc]
  · rfl

theorem Records.isOpen {handle : Handle .database} (records : Records home latest engine reached)
    (opened : engine.IsOpen handle) : reached.IsOpen handle := by
  obtain ⟨database, found⟩ := opened
  obtain ⟨changed, there, _⟩ := records found
  exact ⟨changed, there⟩

/-- A database is replaced by one that was told of this. -/
theorem records_setDatabase (found : engine.database? (some home) = some database)
    (told : changed.told = latest.or database.told) :
    Records home latest engine (engine.setDatabase home changed) := by
  intro handle other known
  by_cases same : home.number = handle.number
  · cases handle_eq_of_follow found known same
    cases found.symm.trans known
    exact ⟨changed, follow_modify found _, by rw [if_pos rfl, told]⟩
  · have apart : handle ≠ home := fun equal => same (equal ▸ rfl)
    exact ⟨other, follow_modify_of_ne known same _, by rw [if_neg apart]⟩

end Records

/-! ## Requests -/

/-- The database is open, and all results can be fetched. -/
structure Ready (engine : Engine) (home : Handle .database) : Prop where
  opened : engine.IsOpen home
  intact : engine.Intact

/-- For an open database the request records the text that it is answered with, if it is answered
with one, and nothing else. -/
def Tells {α : Type} (home : Handle .database) (request : StateM Engine (Reply α))
    (engine : Engine) : Prop :=
  engine.Ready home →
    Records home (request engine).1.text? engine (request engine).2 ∧ (request engine).2.Intact

section Requests

variable {α : Type} {home : Handle .database} {engine : Engine} {database : Database}

/-- **A failure is recorded under the text that is handed out.** -/
theorem tells_refuse (found : engine.database? (some home) = some database) (failure : Failure) :
    Tells (α := α) home (refuse home database failure) engine :=
  fun ready => ⟨records_setDatabase found rfl, ready.intact⟩

theorem tells_onDatabase {go : Handle .database → Database → StateM Engine (Reply α)}
    (each : ∀ database, engine.database? (some home) = some database →
      Tells home (go home database) engine) : Tells home (onDatabase (some home) go) engine := by
  intro ready
  obtain ⟨database, found⟩ := ready.opened
  have same : onDatabase (some home) go engine = go home database engine := by
    simp only [onDatabase, found]
  rw [same]
  exact each database found ready

theorem tells_onStatement {handle : Handle .statement} {stored : StoredStatement}
    {go : Handle .statement → StoredStatement → Database → StateM Engine (Reply α)}
    (known : engine.statement? (some handle) = some stored) (back : stored.database = home)
    (each : ∀ database, engine.database? (some home) = some database →
      Tells home (go handle stored database) engine) :
    Tells home (onStatement (some handle) go) engine := by
  subst back
  intro ready
  obtain ⟨database, found⟩ := ready.opened
  have same : onStatement (some handle) go engine = go handle stored database engine := by
    simp only [onStatement, known, found]
  rw [same]
  exact each database found ready

/-- The tables change, and the text of the latest failure does not; a result is laid out. -/
theorem told_execute {statement : Statement} {parameters : List Value} {changed : Database}
    {effect : Effect} (executed : database.execute statement parameters = .ok (changed, effect)) :
    changed.told = database.told ∧ ∀ native, effect = .rows native → native.Intact := by
  cases Database.execute_eq_ok.1 executed with
  | select _ _ laid =>
      refine ⟨rfl, ?_⟩
      rintro _ ⟨⟩
      exact NativeResult.intact_ofRows laid
  | _ => exact ⟨rfl, nofun⟩

/-- A statement that fails is recorded; one that succeeds leaves the latest failure as it was. -/
theorem tells_run (found : engine.database? (some home) = some database)
    {attempt : Except Failure (Database × Effect)}
    (kept : ∀ changed effect, attempt = .ok (changed, effect) →
      changed.told = database.told ∧ ∀ native, effect = .rows native → native.Intact) :
    Tells home (run home database true attempt) engine := by
  cases attempt with
  | error failure => exact tells_refuse found failure
  | ok answer =>
      obtain ⟨changed, effect⟩ := answer
      obtain ⟨told, laid⟩ := kept changed effect rfl
      have set : Records home none engine (engine.setDatabase home changed) :=
        records_setDatabase found told
      intro ready
      cases effect with
      | rows native => exact ⟨set, Registry.All.add ready.intact (laid native rfl)⟩
      | schema => exact ⟨set, Registry.All.add ready.intact NativeResult.intact_withoutColumns⟩
      | affected count => exact ⟨set, ready.intact⟩

theorem tells_getAutocommit (home : Handle .database) (engine : Engine) :
    Tells home (getAutocommit (some home) true) engine :=
  tells_onDatabase fun _ _ ready => ⟨.refl home engine, ready.intact⟩

theorem tells_setAutocommit (home : Handle .database) (value : Int32) (engine : Engine) :
    Tells home (setAutocommit (some home) value) engine :=
  tells_onDatabase fun _ found ready => ⟨records_setDatabase found rfl, ready.intact⟩

theorem tells_query (home : Handle .database) (text : NativeText) (engine : Engine) :
    Tells home (query (some home) (some text) true) engine := by
  refine tells_onDatabase fun database found => tells_run found fun changed effect executed => ?_
  obtain ⟨statement, _, executed⟩ := Except.bind_eq_ok.1 executed
  exact told_execute executed

/-- Through a database that is open anything can be released. -/
theorem cleanupResult_of_isOpen (opened : engine.IsOpen home) (result : Handle .result) :
    cleanupResult (some home) (some result) engine = (.ok (), engine.removeResult result) := by
  obtain ⟨database, found⟩ := opened
  simp only [cleanupResult, onDatabase, found]

theorem cleanupStatement_of_isOpen (opened : engine.IsOpen home) (statement : Handle .statement) :
    cleanupStatement (some home) (some statement) engine =
      (.ok (), engine.removeStatement statement) := by
  obtain ⟨database, found⟩ := opened
  simp only [cleanupStatement, onDatabase, found]

theorem tells_prepare (home : Handle .database) (text : NativeText) (engine : Engine) :
    Tells home (prepare (some home) (some text) true true) engine := by
  refine tells_onDatabase fun database found => ?_
  dsimp only [Bool.not_true, Bool.false_eq_true, if_false]
  cases attempt : (do database.prepare home (← Statement.parse text.toString)) with
  | error failure => exact tells_refuse found failure
  | ok preparation =>
      obtain ⟨parsed, _, made⟩ := Except.bind_eq_ok.1 attempt
      obtain ⟨_, _, made⟩ := Except.bind_eq_ok.1 made
      obtain ⟨_, _, made⟩ := Except.bind_eq_ok.1 made
      obtain ⟨description, laid, made⟩ := Except.bind_eq_ok.1 made
      obtain ⟨_, _, whole⟩ := Except.bind_eq_ok.1 made
      cases whole
      intro ready
      exact ⟨records_of_databases rfl,
        Registry.All.add ready.intact (NativeResult.intact_ofRows laid)⟩

section Statements

variable {handle : Handle .statement} {stored : StoredStatement}

/-- What is wrong with a datum is recorded in the database that the statement was prepared on. -/
theorem tells_bind (known : engine.statement? (some handle) = some stored)
    (back : stored.database = home) (datum : NativeDatum) (index : Nat) :
    Tells home (bind (some handle) (some datum) index) engine := by
  refine tells_onStatement known back fun database found => ?_
  cases stored.bind (some datum) index with
  | error failure => exact back ▸ tells_refuse (back ▸ found) failure
  | ok bound => exact fun ready => ⟨records_of_databases rfl, ready.intact⟩

theorem tells_execute (known : engine.statement? (some handle) = some stored)
    (back : stored.database = home) : Tells home (execute (some handle) true) engine := by
  subst back
  refine tells_onStatement known rfl fun database found =>
    tells_run found fun changed effect executed => ?_
  obtain ⟨values, _, executed⟩ := Except.bind_eq_ok.1 executed
  exact told_execute executed

end Statements

end Requests

end Engine

end ColumnStore
