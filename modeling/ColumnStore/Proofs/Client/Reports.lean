import ColumnStore.Proofs.Client.Answers
import ColumnStore.Proofs.Client.Binding
import ColumnStore.Proofs.Engine.LastErrors

/-!
# What calls report

A call of the client that fails reports an error of the engine, which has its text of a database,
or an error of its own: a position, a type, a number that is too great, or a text with a NUL. That
there is no datum for NULL is an error of the client, too, although it names an entry point of the
engine. For an open database, what is recorded of a call in the engine is just the text of the
error that it reports, if this is the engine's, and it is recorded in this database and in no other
(`Call.Tells`). This is kept along the steps of a call (`Call.Tells.bind`).

Main results: `Connection.tells_query`, `Connection.tells_prepare`, `ResultSet.tells_fetchAll`,
`PreparedStatement.tells_attempt` and `PreparedStatement.tells_execute`.
-/

set_option autoImplicit false

namespace ColumnStore

/-! ## Errors of the engine and of the client -/

/-- The text of an error that the engine reported for a database. That there is no datum for NULL
is no failure of the engine, and no other error is its own. -/
def Error.engineText? : Error → Option String
  | .native entry text => if entry = .null then none else some text
  | _ => none

/-- The error is not one that the engine reported for a database. -/
abbrev Error.Silent (error : Error) : Prop :=
  error.engineText? = none

theorem Error.silent_of_not_native {error : Error} (client : error.isNative = false) :
    error.Silent := by
  cases error with
  | native entry text => cases client
  | _ => rfl

section Client

open Except

theorem Connection.failsFor_terminated (text : String) :
    FailsFor Error.Silent (terminated text) := by
  unfold terminated
  split
  · exact failsFor_ok _
  · rintro _ ⟨⟩
    rfl

theorem UpdateCount.failsFor_ofAffected (affected : Int) (options : QueryOptions) :
    FailsFor Error.Silent (ofAffected affected options) := by
  unfold ofAffected
  split
  · exact failsFor_ok _
  · split
    · exact failsFor_ok _
    · rintro _ ⟨⟩
      rfl

theorem TagLayout.failsFor_encode (layout : TagLayout) (type : ColumnType) :
    FailsFor Error.Silent (layout.encode type) := by
  unfold encode toNative
  split
  · exact failsFor_ok _
  · split
    · rintro _ ⟨⟩
      rfl
    · exact failsFor_ok _

theorem TagLayout.failsFor_decode? (layout : TagLayout) (tag : Int32) :
    FailsFor Error.Silent (layout.decode? tag) := by
  intro stop stopped
  obtain ⟨_, rfl⟩ := decode?_eq_error.1 stopped
  rfl

theorem PreparedStatement.failsFor_typesOfTags (layout : TagLayout) (tags : List Int32) :
    FailsFor Error.Silent (typesOfTags layout tags) := by
  refine FailsFor.mapM fun entry _ => (layout.failsFor_decode? entry.1).bind fun named _ => ?_
  split
  · exact failsFor_ok _
  · rintro _ ⟨⟩
    rfl

theorem Engine.failsFor_nullValue (given : Option (Handle .database)) (tag : Int32)
    (engine : Engine) : FailsFor Error.Silent (nullValue given tag engine).1 := by
  unfold nullValue
  dsimp only
  split
  · exact failsFor_ok none
  · next database _ => exact (database.layout.failsFor_decode? tag).map

theorem Column.failsFor_value (column : Column) (row : Nat) :
    FailsFor Error.Silent (column.value row) := by
  unfold value
  split <;> split
  all_goals first
    | exact failsFor_ok _
    | rintro _ ⟨⟩
      rfl

theorem Columns.failsFor_value (columns : Columns) (row index : Nat) :
    FailsFor Error.Silent (columns.value row index) := by
  unfold value
  split
  · exact Column.failsFor_value _ row
  · rintro _ ⟨⟩
    rfl

/-- A description that cannot be read is an error of the client. -/
theorem Metadata.failsFor_ofColumns (columns : Columns) :
    FailsFor Error.Silent (ofColumns columns) := by
  have text (row index : Nat) : FailsFor Error.Silent (text columns row index) :=
    (columns.failsFor_value row index).bind fun _ _ => failsFor_ok _
  have number (row index : Nat) : FailsFor Error.Silent (number columns row index) :=
    (columns.failsFor_value row index).bind fun content _ => by split <;> exact failsFor_ok _
  refine FailsFor.foldlM (fun metadata row _ => ?_) _
  refine (text row 0).bind fun sqlType _ => (number row 1).bind fun digits _ =>
    (number row 2).bind fun scale _ => ?_
  have type : FailsFor Error.Silent (typeCell columns row 6) :=
    (text row 6).bind fun _ _ => failsFor_ok _
  refine type.bind fun type _ => (text row 5).bind fun name _ => ?_
  split <;> exact failsFor_ok _

theorem Parameter.silent_mismatch (type : ColumnType) (value : Value) :
    (mismatch type value).Silent := by
  unfold mismatch
  split <;> rfl

theorem Date.failsFor_toCell (date : Date) : FailsFor Error.Silent date.toCell := by
  unfold toCell
  split
  · exact failsFor_ok _
  · rintro _ ⟨⟩
    rfl

theorem Timestamp.failsFor_toCell (timestamp : Timestamp) :
    FailsFor Error.Silent timestamp.toCell :=
  timestamp.date.failsFor_toCell.bind fun _ _ => failsFor_ok _

/-- A value that a parameter does not take is refused by the client. -/
theorem Parameter.failsFor_toDatum (type : ColumnType) (scale : Nat) (value : Value) :
    FailsFor Error.Silent (toDatum type scale value) := by
  have mismatched (type : ColumnType) (value : Value) :
      FailsFor (α := NativeDatum) Error.Silent (.error (mismatch type value)) := by
    rintro _ ⟨⟩
    exact silent_mismatch type value
  unfold toDatum
  split
  · unfold toIntegerDatum
    dsimp only
    split
    · exact mismatched _ _
    · split
      · exact failsFor_ok _
      · rintro _ ⟨⟩
        rfl
  · unfold toPlainDatum
    split
    case h_8 =>
      split
      · exact failsFor_ok _
      · rintro _ ⟨⟩
        rfl
    case h_10 => exact (Date.failsFor_toCell _).map
    case h_12 => exact (Timestamp.failsFor_toCell _).map
    case h_13 => exact (Date.failsFor_toCell _).bind fun _ _ => failsFor_ok _
    case h_14 => exact mismatched _ _
    all_goals exact failsFor_ok _

end Client

/-! ## Calls -/

namespace Call

variable {α β : Type} {home : Handle .database} {engine : Engine}

/-- The text that an outcome has of the engine, if it is an error of the engine. -/
def engineText? (outcome : Except Error α) : Option String :=
  match outcome with
  | .ok _ => none
  | .error error => error.engineText?

/-- For an open database the call leaves the text of the engine's error that it fails with, if it
does, as the latest failure of this database, and records nothing else. -/
def Tells (home : Handle .database) (call : Call Engine α) (engine : Engine) : Prop :=
  engine.Ready home →
    Engine.Records home (engineText? (call engine).1) engine (call engine).2 ∧
      (call engine).2.Intact

theorem engineText?_eq_none {outcome : Except Error α}
    (silent : Except.FailsFor Error.Silent outcome) : engineText? outcome = none := by
  cases outcome with
  | ok answer => rfl
  | error error => exact silent error rfl

/-- A call that leaves the databases alone and fails with no error of the engine. -/
theorem tells_of_silent {call : Call Engine α}
    (silent : Except.FailsFor Error.Silent (call engine).1)
    (databases : (call engine).2.databases = engine.databases)
    (intact : engine.Intact → (call engine).2.Intact) : Tells home call engine := by
  intro ready
  rw [engineText?_eq_none silent]
  exact ⟨Engine.records_of_databases databases, intact ready.intact⟩

theorem tells_pure (answer : α) : Tells home (pure answer) engine :=
  tells_of_silent (Except.failsFor_ok answer) rfl id

/-- A call about something, if there is anything. -/
theorem tells_elim {element : Option β} {go : β → Call Engine α} {otherwise : Call Engine α}
    (none : Tells home otherwise engine)
    (each : ∀ found, element = some found → Tells home (go found) engine) :
    Tells home (element.elim otherwise go) engine := by
  cases element with
  | none => exact none
  | some found => exact each found rfl

theorem tells_settle {outcome : Except Error α} (silent : Except.FailsFor Error.Silent outcome) :
    Tells home (Api.settle outcome) engine :=
  tells_of_silent silent rfl id

theorem tells_check (entry : EntryPoint) {reply : StateM Engine (Reply α)} (other : entry ≠ .null)
    (tells : Engine.Tells home reply engine) : Tells home (Api.check entry reply) engine := by
  intro ready
  have told := tells ready
  rcases replied : reply engine with ⟨outcome, reached⟩
  rw [replied] at told
  cases outcome with
  | ok answer =>
      rw [Api.check_of_ok replied]
      exact told
  | error text =>
      rw [Api.check_of_error replied]
      have shown : Error.engineText? (.native entry text.toString) = some text.toString :=
        if_neg other
      rwa [engineText?, shown]

theorem Tells.bind {first : Call Engine α} {next : α → Call Engine β}
    (tells : Tells home first engine)
    (each : ∀ answer reached, first engine = (.ok answer, reached) →
      Tells home (next answer) reached) : Tells home (first >>= next) engine := by
  intro ready
  obtain ⟨records, intact⟩ := tells ready
  rcases run : first engine with ⟨outcome, reached⟩
  rw [run] at records intact
  cases outcome with
  | error error =>
      rw [bind_of_error run]
      exact ⟨records, intact⟩
  | ok answer =>
      rw [bind_of_ok run]
      obtain ⟨later, still⟩ := each answer reached run ⟨records.isOpen ready.opened, intact⟩
      have whole := records.trans later
      rw [engineText?, Option.or_none] at whole
      exact ⟨whole, still⟩

/-- Calls for the elements of a list, while a property of the engine is kept. -/
theorem tells_mapM {property : Engine → Prop} {call : β → Call Engine α} {list : List β}
    (each : ∀ element ∈ list, ∀ engine, property engine →
      Tells home (call element) engine ∧ property (call element engine).2)
    (holds : property engine) : Tells home (list.mapM call) engine := by
  induction list generalizing engine with
  | nil => exact tells_pure []
  | cons element rest ih =>
      rw [List.mapM_cons]
      obtain ⟨tells, kept⟩ := each element List.mem_cons_self engine holds
      refine tells.bind fun answer reached run => ?_
      rw [run] at kept
      refine Tells.bind (ih (fun other member => each other (List.mem_cons_of_mem _ member)) kept)
        fun answers final _ => tells_pure _

/-- A call that gives up after another one if it fails. -/
theorem Tells.orAbandon {call : Call Engine α} {release : Call Engine β}
    (tells : Tells home call engine)
    (silent : ∀ reached, reached.Ready home →
      (release reached).2.databases = reached.databases ∧ (release reached).2.Intact) :
    Tells home (tryCatch call (Api.abandon release)) engine := by
  intro ready
  obtain ⟨records, intact⟩ := tells ready
  rcases run : call engine with ⟨outcome, reached⟩
  rw [run] at records intact
  simp only [tryCatch, tryCatchThe, MonadExceptOf.tryCatch, ExceptT.tryCatch, ExceptT.mk,
    Bind.bind, StateT.bind, run]
  cases outcome with
  | ok answer => exact ⟨records, intact⟩
  | error error =>
      obtain ⟨databases, still⟩ := silent reached ⟨records.isOpen ready.opened, intact⟩
      exact ⟨records.trans (Engine.records_of_databases databases), still⟩

theorem Tells.done {call : Call Engine α} (tells : Tells home call engine) :
    Tells home call.done engine :=
  tells.bind fun _ _ _ => tells_pure ()

end Call

/-! ## Calls of a connection -/

section Calls

variable {connection : Connection Engine} {engine : Engine}

/-- A statement that is prepared comes with a description, which the engine keeps. -/
theorem Engine.shows_of_prepare {home : Handle .database} {text : NativeText}
    {prepared : Prepared} {reached : Engine}
    (answered : prepare (some home) (some text) true true engine = (.ok prepared, reached)) :
    ∃ live description, prepared = ⟨some live, some description⟩ ∧ reached.Shows description := by
  obtain ⟨database, parsed, preparation, found, read, made⟩ := prepare_eq_ok answered
  have attempt : (do database.prepare home (← Statement.parse text.toString)) =
      .ok preparation := by
    rw [read]
    exact made
  cases (prepare_of_ok found attempt).symm.trans answered
  exact ⟨_, _, rfl, _, result?_addResult_self _ _, rfl⟩

namespace Connection

variable (inProcess : connection.InProcess)
include inProcess

theorem tells_autocommit (engine : Engine) :
    Call.Tells connection.handle connection.autocommit engine := by
  have entry : Engine.Tells connection.handle
      (connection.api.table.getAutocommit (some connection.handle)) engine := by
    rw [inProcess]
    exact Engine.tells_getAutocommit connection.handle engine
  exact (Call.tells_check .getAutocommit nofun entry).bind fun _ _ _ => Call.tells_pure _

theorem tells_setAutocommit (enabled : Bool) (engine : Engine) :
    Call.Tells connection.handle (connection.setAutocommit enabled) engine := by
  refine Call.tells_check .setAutocommit nofun ?_
  rw [inProcess]
  exact Engine.tells_setAutocommit connection.handle _ engine

/-- A result is released. -/
theorem cleanupResult_of_isOpen (opened : engine.IsOpen connection.handle)
    (handle : Handle .result) :
    connection.api.cleanupResult connection.handle handle engine =
      (.ok (), engine.removeResult handle) := by
  refine Api.check_of_ok ?_
  rw [inProcess]
  exact Engine.cleanupResult_of_isOpen opened handle

theorem cleanupStatement_of_isOpen (opened : engine.IsOpen connection.handle)
    (handle : Handle .statement) :
    connection.api.cleanupStatement connection.handle handle engine =
      (.ok (), engine.removeStatement handle) := by
  refine Api.check_of_ok ?_
  rw [inProcess]
  exact Engine.cleanupStatement_of_isOpen opened handle

theorem tells_cleanupResult (handle : Handle .result) (engine : Engine) :
    Call.Tells connection.handle (connection.api.cleanupResult connection.handle handle)
      engine := by
  intro ready
  rw [cleanupResult_of_isOpen inProcess ready.opened]
  exact ⟨Engine.records_of_databases rfl, ready.intact.remove _⟩

theorem tells_cleanupStatement (handle : Handle .statement) (engine : Engine) :
    Call.Tells connection.handle (connection.api.cleanupStatement connection.handle handle)
      engine := by
  intro ready
  rw [cleanupStatement_of_isOpen inProcess ready.opened]
  exact ⟨Engine.records_of_databases rfl, ready.intact⟩

/-- What a statement produced is taken over. -/
theorem tells_ofExecuted (executed : Executed) (options : QueryOptions) (engine : Engine) :
    Call.Tells connection.handle (Outcome.ofExecuted connection executed options) engine := by
  have updated (engine : Engine) : Call.Tells connection.handle (Api.settle
      (Outcome.updated <$> UpdateCount.ofAffected executed.affected options) :
        Call Engine (Outcome Engine)) engine :=
    Call.tells_settle (UpdateCount.failsFor_ofAffected _ _).map
  unfold Outcome.ofExecuted
  cases executed.result with
  | none => exact updated engine
  | some native =>
      dsimp only
      split
      · exact Call.tells_pure _
      · exact (tells_cleanupResult inProcess native.handle engine).bind fun _ _ _ => updated _

/-- **A query** reports what its database is told. -/
theorem tells_query (text : String) (options : QueryOptions) (engine : Engine) :
    Call.Tells connection.handle (connection.query text options) engine := by
  refine (Call.tells_settle (failsFor_terminated text)).bind fun sent reached _ => ?_
  have entry : Engine.Tells connection.handle
      (connection.api.table.query (some connection.handle) (some sent)) reached := by
    rw [inProcess]
    exact Engine.tells_query connection.handle sent reached
  exact (Call.tells_check .query nofun entry).bind fun executed reached _ =>
    tells_ofExecuted inProcess executed options reached

/-- A column of a result that the engine keeps is fetched, and the result is kept. -/
theorem tells_materialize {live : LiveResult} {index : Nat}
    (inside : index < live.header.columnCount) (holds : engine.Intact ∧ engine.Shows live) :
    Call.Tells connection.handle (connection.api.materialize live.handle index) engine ∧
      (connection.api.materialize live.handle index engine).2.Intact ∧
      (connection.api.materialize live.handle index engine).2.Shows live := by
  obtain ⟨intact, native, kept, header⟩ := holds
  obtain ⟨length, buffered⟩ := intact _ _ (Engine.follow_eq_some.1 kept).2
  obtain ⟨current, there⟩ : ∃ current, native.columns[index]? = some current := by
    refine ⟨_, List.getElem?_eq_getElem ?_⟩
    rwa [length, header]
  have whole := buffered _ (List.mem_of_getElem? there)
  have run := Engine.materialize_of_column inProcess kept there
  have after : (connection.api.materialize live.handle index engine).2.Intact := by
    rw [run]
    exact Engine.Intact.writeCells intact ⟨live.handle, index, current⟩
      (Descriptor.hasBuffer_materialize whole connection.api.layout index)
  refine ⟨Call.tells_of_silent ?_ (by rw [run]; rfl) fun _ => after, after, ?_⟩
  · rw [run]
    exact (Descriptor.failsFor_materialize whole connection.api.layout index).mono
      fun error client => Error.silent_of_not_native client
  · rw [run]
    have counted : engine.countFetch.result? (some live.handle) = some native := kept
    exact ⟨_, Engine.result?_modifyColumns counted _, header⟩

/-- The columns of a result that the engine keeps are fetched. -/
theorem tells_columns {live : LiveResult} (shows : engine.Shows live) :
    Call.Tells connection.handle (connection.api.columns live) engine := by
  intro ready
  have each (index : Nat) (member : index ∈ List.range live.header.columnCount) (reached : Engine)
      (holds : reached.Intact ∧ reached.Shows live) :=
    tells_materialize inProcess (List.mem_range.1 member) holds
  exact (Call.tells_mapM each ⟨ready.intact, shows⟩).bind (fun _ _ _ => Call.tells_pure _) ready

end Connection

namespace PreparedStatement

/-- A description is read and released. -/
theorem tells_describe (inProcess : connection.InProcess) {description : LiveResult}
    (shows : engine.Shows description) :
    Call.Tells connection.handle (describe connection description) engine := by
  have read : Call.Tells connection.handle (connection.api.metadata description) engine :=
    (Connection.tells_columns inProcess shows).bind fun columns _ _ =>
      Call.tells_settle (Metadata.failsFor_ofColumns columns)
  intro ready
  obtain ⟨records, intact⟩ := read ready
  rcases run : connection.api.metadata description engine with ⟨metadata, middle⟩
  rw [run] at records intact
  by_cases stopped : metadata = .error .overflow
  · subst stopped
    rw [describe_of_overflow run]
    exact ⟨records, intact⟩
  have released := Connection.cleanupResult_of_isOpen inProcess (records.isOpen ready.opened)
    description.handle
  have whole : describe connection description engine =
      (metadata, middle.removeResult description.handle) := by
    rw [describe_of_read run stopped, released]
    rfl
  rw [whole]
  exact ⟨records.trans (Engine.records_of_databases rfl), intact.remove _⟩

/-- A statement is taken over with its description, or released. -/
theorem tells_ofPrepared (inProcess : connection.InProcess) (live : LiveStatement)
    {description : LiveResult} (shows : engine.Shows description) :
    Call.Tells connection.handle (ofPrepared connection live (some description)) engine := by
  refine Call.Tells.orAbandon ?_ fun reached ready => ?_
  · refine (Call.tells_settle (failsFor_typesOfTags _ _)).bind fun types reached settled => ?_
    obtain ⟨_, rfl⟩ := Api.settle_eq_ok.1 settled
    exact (tells_describe inProcess shows).bind fun _ _ _ => Call.tells_pure _
  · rw [Connection.cleanupStatement_of_isOpen inProcess ready.opened]
    exact ⟨rfl, ready.intact⟩

end PreparedStatement

/-- **Preparing a statement** reports what its database is told. -/
theorem Connection.tells_prepare (inProcess : connection.InProcess) (text : String)
    (engine : Engine) : Call.Tells connection.handle (connection.prepare text) engine := by
  refine (Call.tells_settle (failsFor_terminated text)).bind fun sent reached _ => ?_
  have entry : Engine.Tells connection.handle
      (connection.api.table.prepare (some connection.handle) (some sent)) reached := by
    rw [inProcess]
    exact Engine.tells_prepare connection.handle sent reached
  have prepared (answer : Prepared) (middle : Engine)
      (checked : Api.check .prepare
        (connection.api.table.prepare (some connection.handle) (some sent)) reached =
          (.ok answer, middle)) :
      ∃ live description, answer = ⟨some live, some description⟩ ∧ middle.Shows description := by
    have answered := Api.check_eq_ok.1 checked
    rw [inProcess] at answered
    exact Engine.shows_of_prepare answered
  have called : Call.Tells connection.handle
      (connection.api.prepare connection.handle sent) reached := by
    refine (Call.tells_check .prepare nofun entry).bind fun answer middle checked => ?_
    obtain ⟨live, description, rfl, _⟩ := prepared answer middle checked
    exact Call.tells_pure _
  refine called.bind fun answer middle run => ?_
  obtain ⟨both, half, checked, rest⟩ := Call.bind_eq_ok.1 run
  obtain ⟨live, description, rfl, shows⟩ := prepared both half checked
  cases rest
  exact PreparedStatement.tells_ofPrepared inProcess live shows

/-! ## Calls of a result -/

namespace ResultSet

variable {result : ResultSet Engine}

/-- **Fetching a result** that the engine keeps reports what its database is told, which is
nothing. -/
theorem tells_fetchAll (inProcess : result.connection.InProcess)
    (shows : engine.Shows result.native) :
    Call.Tells result.connection.handle result.fetchAll engine :=
  (Connection.tells_columns inProcess shows).bind fun _ _ _ => Call.tells_pure _

end ResultSet

/-! ## Calls of a statement -/

namespace PreparedStatement

variable {statement : PreparedStatement Engine} {stored : StoredStatement}

theorem failsFor_slot {σ : Type} (statement : PreparedStatement σ) (index : Nat) :
    Except.FailsFor Error.Silent (statement.slot index) := by
  unfold slot
  dsimp only
  split
  · rintro _ ⟨⟩
    rfl
  · exact Except.failsFor_ok _

/-- The datum reserved for NULL is looked up. -/
theorem silent_nullDatum (inProcess : statement.connection.InProcess) (slot : Nat)
    (engine : Engine) :
    (nullDatum statement slot engine).2 = engine ∧
      Except.FailsFor Error.Silent (nullDatum statement slot engine).1 := by
  cases encoded : statement.connection.api.layout.encode (statement.typeAt slot) with
  | error error =>
      have settled : Api.settle (statement.connection.api.layout.encode (statement.typeAt slot))
          engine = (.error error, engine) := by
        rw [encoded]
        rfl
      have fails := TagLayout.failsFor_encode statement.connection.api.layout
        (statement.typeAt slot)
      rw [encoded] at fails
      rw [nullDatum, Api.nullValue, Call.bind_of_error settled]
      refine ⟨rfl, ?_⟩
      rintro _ ⟨⟩
      exact fails error rfl
  | ok tag =>
      rw [nullDatum, Api.nullValue, Call.bind_of_ok (Api.settle_eq_ok.2 ⟨encoded, rfl⟩), inProcess]
      have fails := Engine.failsFor_nullValue (some statement.connection.handle) tag engine
      rcases found : Engine.nullValue (some statement.connection.handle) tag engine with
        ⟨answer, reached⟩
      rw [found] at fails
      obtain rfl : reached = engine := (congrArg Prod.snd found).symm
      have asked : ExceptT.mk ((Engine.functionTable statement.connection.api.layout).nullValue
          (some statement.connection.handle) tag) reached = (answer, reached) := found
      cases answer with
      | error stop =>
          rw [Call.bind_of_error asked]
          refine ⟨rfl, ?_⟩
          rintro _ ⟨⟩
          exact fails stop rfl
      | ok datum =>
          rw [Call.bind_of_ok asked]
          cases datum with
          | some datum => exact ⟨rfl, Except.failsFor_ok datum⟩
          | none =>
              refine ⟨rfl, ?_⟩
              rintro _ ⟨⟩
              rfl

/-- Every binding is one with a datum that the engine is not told about. -/
theorem exists_silent (index : Nat) (binding : Binding) :
    ∃ datum : PreparedStatement Engine → Nat → Call Engine NativeDatum,
      binding.update index = bindWith index datum ∧
      ∀ statement : PreparedStatement Engine, statement.connection.InProcess → ∀ slot engine,
        (datum statement slot engine).2 = engine ∧
          Except.FailsFor Error.Silent (datum statement slot engine).1 := by
  have bindAs (type : ColumnType) (datum : NativeDatum) (expected : ColumnType) :
      Except.FailsFor Error.Silent (if expected = type then .ok datum
        else .error (.parameterType expected type)) := by
    split
    · exact Except.failsFor_ok datum
    · rintro _ ⟨⟩
      rfl
  cases binding with
  | value given =>
      refine ⟨_, rfl, fun statement inProcess slot engine => ?_⟩
      split
      · exact silent_nullDatum inProcess slot engine
      · exact ⟨rfl, Parameter.failsFor_toDatum _ _ given⟩
  | null => exact ⟨_, rfl, fun _ inProcess slot engine => silent_nullDatum inProcess slot engine⟩
  | blob | date | time | timestamp => exact ⟨_, rfl, fun _ _ _ _ => ⟨rfl, bindAs _ _ _⟩⟩

section Kept

variable (inProcess : statement.connection.InProcess)
  (known : engine.statement? (some statement.handle) = some stored)
  (home : stored.database = statement.connection.handle)
include inProcess known home

/-- **Binding** reports what the database is told that the statement was prepared on. What is wrong
with the index, the type or the value is not told to the engine. -/
theorem tells_attempt (index : Nat) (binding : Binding) :
    Call.Tells statement.connection.handle (statement.attempt index binding) engine := by
  obtain ⟨datum, same, silent⟩ := exists_silent index binding
  have refused {error : Error} (client : error.Silent)
      (stops : statement.attempt index binding engine = (.error error, engine)) :
      Call.Tells statement.connection.handle (statement.attempt index binding) engine := by
    intro ready
    rw [stops, Call.engineText?, client]
    exact ⟨.refl _ engine, ready.intact⟩
  cases located : statement.slot index with
  | error error =>
      refine refused (statement.failsFor_slot index error located) ?_
      simp only [attempt, same, bindWith, located]
  | ok slot =>
      obtain ⟨unchanged, fails⟩ := silent statement inProcess slot engine
      rcases made : datum statement slot engine with ⟨outcome, reached⟩
      rw [made] at unchanged fails
      obtain rfl : reached = engine := unchanged
      cases outcome with
      | error error =>
          refine refused (fails error rfl) ?_
          simp only [attempt, same, bindWith, located, made]
      | ok content =>
          have entry : Engine.Tells statement.connection.handle (statement.connection.api.table.bind
              (some statement.handle) (some content) slot) reached := by
            rw [inProcess]
            exact Engine.tells_bind known home content slot
          have handed : statement.attempt index binding reached =
              statement.connection.api.bind statement.handle content slot reached := by
            simp only [attempt, same, bindWith, located, made, install]
            rfl
          intro ready
          rw [handed]
          exact Call.tells_check .bind nofun entry ready

/-- **Executing a statement** reports what the database is told that it was prepared on. -/
theorem tells_execute (options : QueryOptions) :
    Call.Tells statement.connection.handle (statement.execute options) engine := by
  have entry : Engine.Tells statement.connection.handle
      (statement.connection.api.table.execute (some statement.handle)) engine := by
    rw [inProcess]
    exact Engine.tells_execute known home
  exact (Call.tells_check .execute nofun entry).bind fun executed reached _ =>
    Connection.tells_ofExecuted inProcess executed options reached

end Kept

end PreparedStatement

end Calls

end ColumnStore

