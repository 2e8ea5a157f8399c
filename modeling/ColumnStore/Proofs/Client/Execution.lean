import ColumnStore.Proofs.Client.Binding
import ColumnStore.Proofs.Client.Select
import ColumnStore.Proofs.Engine.Atomicity
import Mathlib.Data.Set.List

/-!
# Executions run with what was bound last

A prepared statement is used by binding arguments to its parameters and by executing it, in any
order and as often as wanted, and each of these calls may fail (`Usage`). For each parameter the
engine has recorded what the last bind to it that succeeded stands for, and nothing if none did:
neither a bind that failed, nor one to another parameter, nor an execution makes a difference
(`Remembers`). So an execution runs with these values; as long as one is missing it fails, names
the first parameter without a value, and changes nothing but the last error of the database
(`PreparedStatement.runs_with_last`).

Callers count parameters from one, the engine counts them from zero, also in what it reports.
-/

set_option autoImplicit false

namespace ColumnStore

/-! ## What is bound -/

/-- What a caller may bind to a parameter: a value, NULL, octets, or components of a date or a
time. -/
inductive Argument
  | value (value : Value)
  | null
  | blob (bytes : Bytes)
  | date (cell : DateCell)
  | time (cell : TimeCell)
  | timestamp (cell : TimestampCell)

namespace Argument

/-- Bind the argument to the parameter with an index. -/
def bind (argument : Argument) (index : Nat) : PreparedStatement.Update Engine :=
  match argument with
  | .value content => PreparedStatement.bind index content
  | .null => PreparedStatement.bindNull index
  | .blob bytes => PreparedStatement.bindBlob index bytes
  | .date cell => PreparedStatement.bindDate index cell
  | .time cell => PreparedStatement.bindTime index cell
  | .timestamp cell => PreparedStatement.bindTimestamp index cell

/-- The datum for the argument is made for the parameter with a slot. -/
def make (argument : Argument) (statement : PreparedStatement Engine) (slot : Nat) :
    Call Engine NativeDatum :=
  let only (type : ColumnType) (datum : NativeDatum) : Call Engine NativeDatum :=
    let expected := statement.typeAt slot
    Api.settle (if expected = type then .ok datum else .error (.parameterType expected type))
  match argument with
  | .value content =>
      if content.isNull then statement.nullDatum slot
      else Api.settle (Parameter.toDatum (statement.typeAt slot) (statement.scaleAt slot) content)
  | .null => statement.nullDatum slot
  | .blob bytes => only .blob (.blob (.bytes bytes))
  | .date cell => only .date (.date cell)
  | .time cell => only .time (.time cell)
  | .timestamp cell => only .timestamp (.timestamp cell)

theorem bind_eq (argument : Argument) (index : Nat) :
    argument.bind index = PreparedStatement.bindWith index argument.make := by
  cases argument <;> rfl

/-- The datum that stands for the argument in a parameter of the type, if any does. -/
def datum? (type : DeclaredType) : Argument → Option NativeDatum
  | .value content =>
      if content.isNull then NativeDatum.sentinel? type.storage
      else (Parameter.toDatum type.storage type.scale content).toOption
  | .null => NativeDatum.sentinel? type.storage
  | .blob bytes => if type.storage = .blob then some (.blob (.bytes bytes)) else none
  | .date cell => if type.storage = .date then some (.date cell) else none
  | .time cell => if type.storage = .time then some (.time cell) else none
  | .timestamp cell => if type.storage = .timestamp then some (.timestamp cell) else none

/-- What the engine records for the argument in a parameter of the type: the value that it reads
from the datum. -/
def recorded? (type : DeclaredType) (argument : Argument) : Option Value :=
  (argument.datum? type).bind fun datum => (StoredStatement.read type datum).toOption

/-- The argument of the last bind to the parameter with an index. The latest binds come first. -/
def last? (accepted : List (Nat × Argument)) (index : Nat) : Option Argument :=
  (accepted.find? fun entry => entry.1 = index).map Prod.snd

/-- What the engine records for the parameters of a statement: what the last argument that was
bound stands for, or nothing. -/
def recordings (parameters : List DeclaredType) (accepted : List (Nat × Argument)) :
    List (Option Value) :=
  parameters.mapIdx fun slot type => (last? accepted (slot + 1)).bind (recorded? type)

theorem getElem?_recordings (parameters : List DeclaredType) (accepted : List (Nat × Argument))
    (slot : Nat) : (recordings parameters accepted)[slot]? =
      parameters[slot]?.map fun type => (last? accepted (slot + 1)).bind (recorded? type) := by
  rw [recordings, List.getElem?_mapIdx]

theorem recordings_nil (parameters : List DeclaredType) :
    recordings parameters [] = parameters.map fun _ => none := by
  apply List.ext_getElem?
  intro slot
  rw [getElem?_recordings, List.getElem?_map]
  rfl

/-- A bind is recorded for its parameter, and for no other. -/
theorem recordings_cons {parameters : List DeclaredType} {index : Nat} (positive : index ≠ 0)
    {type : DeclaredType} (typed : parameters[index - 1]? = some type) {argument : Argument}
    {recorded : Value} (records : argument.recorded? type = some recorded)
    (accepted : List (Nat × Argument)) :
    recordings parameters ((index, argument) :: accepted) =
      (recordings parameters accepted).set (index - 1) (some recorded) := by
  apply List.ext_getElem?
  intro slot
  rw [getElem?_recordings]
  by_cases same : index = slot + 1
  · have here : slot = index - 1 := by omega
    have inside : index - 1 < (recordings parameters accepted).length := by
      rw [recordings, List.length_mapIdx]
      exact (List.getElem?_eq_some_iff.1 typed).1
    have found : last? ((index, argument) :: accepted) (slot + 1) = some argument := by
      simp [last?, same]
    rw [found, here, typed, List.getElem?_set_self inside]
    exact congrArg some records
  · have skipped : last? ((index, argument) :: accepted) (slot + 1) =
        last? accepted (slot + 1) := by
      simp [last?, same]
    rw [skipped, List.getElem?_set_ne (by omega), getElem?_recordings]

end Argument

/-! ## Using a statement -/

/-- What may be done with a statement: an argument is bound, or it is executed; and any requests
are made of the engine. -/
inductive Usage.Operation
  | bind (index : Nat) (argument : Argument)
  | execute (options : QueryOptions)
  | request (request : Engine.Request)

/-- A statement in use, with the binds that succeeded so far, the latest first. -/
structure Usage where
  statement : PreparedStatement Engine
  accepted : List (Nat × Argument)
  engine : Engine

namespace Usage

/-- Nothing was done yet. -/
def start (statement : PreparedStatement Engine) (engine : Engine) : Usage :=
  ⟨statement, [], engine⟩

/-- A bind is noted if it succeeded. -/
def note (accepted : List (Nat × Argument)) (index : Nat) (argument : Argument) :
    Except Error Unit → List (Nat × Argument)
  | .ok () => (index, argument) :: accepted
  | .error _ => accepted

/-- Do one thing, which may fail. -/
def perform (usage : Usage) : Operation → Usage
  | .bind index argument =>
      let attempt := argument.bind index usage.statement usage.engine
      ⟨attempt.1.2, note usage.accepted index argument attempt.1.1, attempt.2⟩
  | .execute options =>
      { usage with engine := (usage.statement.execute options usage.engine).2 }
  | .request request => { usage with engine := request.perform usage.engine }

/-- Do one thing after the other. -/
def run (usage : Usage) (operations : List Operation) : Usage :=
  operations.foldl perform usage

end Usage

/-- No request gets at the statement, and none closes its database. -/
def Usage.Operation.Spares (statement : PreparedStatement Engine) : Usage.Operation → Prop
  | .request asked => asked.SparesStatement statement.handle ∧
      asked.SparesDatabase statement.connection.handle
  | _ => True

/-! ## Executing asks for nothing else -/

namespace PreparedStatement

variable {statement : PreparedStatement Engine} {property : Engine → Prop}

/-- What every request keeps that spares the statement and its database, an execution keeps. -/
theorem keeps_execute (inProcess : statement.connection.InProcess)
    (kept : ∀ engine, property engine → ∀ request : Engine.Request,
      request.SparesStatement statement.handle →
      request.SparesDatabase statement.connection.handle → property (request.perform engine))
    (options : QueryOptions) : Call.Keeps property (statement.execute options) := by
  have ran : Call.Keeps property (statement.connection.api.execute statement.handle) := by
    refine Api.keeps_check fun engine holds => ?_
    rw [inProcess]
    exact kept engine holds (.execute (some statement.handle) true) trivial trivial
  refine ran.bind fun executed => ?_
  unfold Outcome.ofExecuted
  cases executed.result with
  | none => exact Api.keeps_settle _
  | some native =>
      dsimp only
      split
      · exact Call.keeps_pure _
      · -- a result without columns is released
        have released : Call.Keeps property (ResultSet.close
            ⟨statement.connection, native, options.maxRows, false⟩) := by
          refine Api.keeps_check fun engine holds => ?_
          dsimp only
          rw [inProcess]
          exact kept engine holds
            (.cleanupResult (some statement.connection.handle) (some native.handle)) trivial trivial
        exact released.bind fun _ => Api.keeps_settle _

end PreparedStatement

/-! ## What the engine has recorded -/

/-- The first parameter without a value is reported. -/
theorem StoredStatement.values_of_unbound {stored : StoredStatement} {slot : Nat}
    (unbound : stored.bound[slot]? = some none)
    (first : ∀ earlier < slot, stored.bound[earlier]? ≠ some none) :
    stored.values = .error (.unboundParameter slot) := by
  have there : stored.bound.zipIdx[slot]? = some (none, slot) := by
    rw [List.getElem?_zipIdx, unbound, Option.map_some, Nat.zero_add]
  refine Except.mapM_eq_error there rfl fun earlier before entry found => ?_
  rw [List.getElem?_zipIdx] at found
  obtain ⟨content, known, rfl⟩ := Option.map_eq_some_iff.1 found
  cases content with
  | none => exact absurd known (first earlier before)
  | some value => exact ⟨value, rfl⟩

namespace PreparedStatement

variable {statement : PreparedStatement Engine} {home : Handle .database} {parsed : Statement}
  {parameters : List DeclaredType} {given : List (Option Value)} {engine : Engine}

/-- Making a datum changes nothing, and what is made stands for the argument. -/
theorem Tracks.make (tracks : Tracks statement home parsed parameters given engine)
    (argument : Argument) (slot : Nat) : (argument.make statement slot engine).2 = engine ∧
      ∀ type made, parameters[slot]? = some type →
        (argument.make statement slot engine).1 = .ok made → argument.datum? type = some made := by
  have only {type : DeclaredType} {wanted : ColumnType} {datum made : NativeDatum}
      (found : parameters[slot]? = some type)
      (done : (if statement.typeAt slot = wanted then .ok datum
        else .error (.parameterType (statement.typeAt slot) wanted) :
          Except Error NativeDatum) = .ok made) :
      (if type.storage = wanted then some datum else none) = some made := by
    rw [tracks.typeAt_eq found] at done
    split at done
    · next same =>
        cases done
        rw [if_pos same]
    · cases done
  cases argument with
  | value content =>
      obtain ⟨still, stands⟩ := tracks.valueDatum content slot
      refine ⟨still, fun type made found done => ?_⟩
      have bound := stands type made found done
      rw [Argument.datum?]
      unfold DeclaredType.BindsAs at bound
      split
      · next absent => rwa [if_pos absent] at bound
      · next present =>
          rw [if_neg present] at bound
          rw [bound]
          rfl
  | null =>
      refine ⟨(tracks.nullDatum slot).1, fun type made found done => ?_⟩
      rw [Argument.datum?, ← tracks.typeAt_eq found]
      exact (tracks.nullDatum slot).2 made done
  | blob bytes => exact ⟨rfl, fun type made found done => only found done⟩
  | date cell => exact ⟨rfl, fun type made found done => only found done⟩
  | time cell => exact ⟨rfl, fun type made found done => only found done⟩
  | timestamp cell => exact ⟨rfl, fun type made found done => only found done⟩

end PreparedStatement

/-- The engine has recorded what was bound last to each parameter, and nothing else. -/
structure Usage.Remembers (usage : Usage) (home : Handle .database) (parsed : Statement)
    (parameters : List DeclaredType) : Prop where
  tracks : usage.statement.Tracks home parsed parameters (parameters.map fun _ => none)
    usage.engine
  isOpen : usage.engine.IsOpen usage.statement.connection.handle
  kept : usage.engine.statement? (some usage.statement.handle) =
    some ⟨home, parsed, parameters, Argument.recordings parameters usage.accepted⟩
  /-- Whatever was bound stands for a value. -/
  stands : ∀ entry ∈ usage.accepted, entry.1 ≠ 0 ∧ ∃ type recorded,
    parameters[entry.1 - 1]? = some type ∧ entry.2.recorded? type = some recorded

namespace Usage

variable {usage : Usage} {home : Handle .database} {parsed : Statement}
  {parameters : List DeclaredType}

theorem statement_perform (usage : Usage) (operation : Operation) :
    (usage.perform operation).statement.handle = usage.statement.handle ∧
      (usage.perform operation).statement.connection = usage.statement.connection := by
  cases operation with
  | bind index argument =>
      rw [perform, Argument.bind_eq]
      exact ⟨PreparedStatement.handle_bindWith _ _ _ _,
        PreparedStatement.connection_bindWith _ _ _ _⟩
  | execute options => exact ⟨rfl, rfl⟩
  | request request => exact ⟨rfl, rfl⟩

namespace Remembers

/-- A bind that succeeds is recorded for its parameter; one that fails changes none. -/
theorem bind (remembers : usage.Remembers home parsed parameters) (index : Nat)
    (argument : Argument) :
    (usage.perform (.bind index argument)).Remembers home parsed parameters := by
  have tracks := remembers.tracks
  have made := tracks.make argument
  have tracked := (tracks.bindWith index (fun slot => (made slot).1)
    fun _ _ _ _ _ (absent : none = some _) => nomatch absent).unknown
  rw [Usage.perform, Argument.bind_eq]
  rcases PreparedStatement.bindWith_cases index fun slot => (made slot).1 with
    ⟨error, same⟩ | ⟨datum, positive, done, same⟩
  · -- the engine was not even asked
    rw [same]
    exact remembers
  · rw [same] at tracked ⊢
    have isOpen :
        (PreparedStatement.install (index - 1) datum usage.statement usage.engine).2.IsOpen
          usage.statement.connection.handle := by
      rw [PreparedStatement.install_snd tracks.inProcess]
      exact Engine.isOpen_perform remembers.isOpen trivial
    rcases PreparedStatement.install_cases tracks.inProcess remembers.kept (index - 1) datum with
      ⟨type, recorded, found, read, accepted, now⟩ | ⟨error, refused, still⟩
    · have typed : parameters[index - 1]? = some type := found
      have records : argument.recorded? type = some recorded := by
        rw [Argument.recorded?, (made (index - 1)).2 type datum found done]
        exact congrArg Except.toOption read
      rw [accepted]
      refine ⟨tracked, isOpen, ?_, List.forall_mem_cons.2
        ⟨⟨positive, type, recorded, typed, records⟩, remembers.stands⟩⟩
      show _ = some (StoredStatement.mk home parsed parameters
        (Argument.recordings parameters ((index, argument) :: usage.accepted)))
      rw [Argument.recordings_cons positive typed records]
      exact now
    · rw [refused]
      exact ⟨tracked, isOpen, still, remembers.stands⟩

/-- Requests that spare the statement and its database make no difference. -/
theorem request (remembers : usage.Remembers home parsed parameters) {request : Engine.Request}
    (spares : request.SparesStatement usage.statement.handle)
    (leaves : request.SparesDatabase usage.statement.connection.handle) :
    (usage.perform (.request request)).Remembers home parsed parameters :=
  ⟨remembers.tracks.perform spares, Engine.isOpen_perform remembers.isOpen leaves,
    Engine.statement?_perform remembers.kept spares, remembers.stands⟩

/-- An execution makes no difference to the parameters, whether it succeeds or fails. -/
theorem execute (remembers : usage.Remembers home parsed parameters) (options : QueryOptions) :
    (usage.perform (.execute options)).Remembers home parsed parameters := by
  let holds (engine : Engine) : Prop :=
    ({ usage with engine } : Usage).Remembers home parsed parameters
  have kept : Call.Keeps holds (usage.statement.execute options) :=
    PreparedStatement.keeps_execute remembers.tracks.inProcess
      (fun engine before request spares leaves => before.request spares leaves) options
  exact kept usage.engine remembers

/-- **Each operation** leaves recorded what was bound last. -/
theorem perform (remembers : usage.Remembers home parsed parameters) {operation : Operation}
    (spares : operation.Spares usage.statement) :
    (usage.perform operation).Remembers home parsed parameters := by
  cases operation with
  | bind index argument => exact remembers.bind index argument
  | execute options => exact remembers.execute options
  | request request => exact remembers.request spares.1 spares.2

/-- **Whatever is done with a statement**, what was bound last is recorded. -/
theorem run (remembers : usage.Remembers home parsed parameters) {operations : List Operation}
    (spares : ∀ operation ∈ operations, operation.Spares usage.statement) :
    (usage.run operations).Remembers home parsed parameters ∧
      (usage.run operations).statement.handle = usage.statement.handle ∧
      (usage.run operations).statement.connection = usage.statement.connection := by
  induction operations generalizing usage with
  | nil => exact ⟨remembers, rfl, rfl⟩
  | cons operation rest ih =>
      obtain ⟨handle, connection⟩ := statement_perform usage operation
      have others : ∀ other ∈ rest, other.Spares (usage.perform operation).statement := by
        intro other member
        have known := spares other (List.mem_cons_of_mem _ member)
        cases other with
        | request asked =>
            rw [Operation.Spares, handle, connection]
            exact known
        | _ => trivial
      have after := ih (remembers.perform (spares operation List.mem_cons_self)) others
      rw [handle, connection] at after
      exact after

end Remembers

end Usage

/-! ## Executing -/

theorem Failure.nulFree_unboundParameter (slot : Nat) :
    NulFree (unboundParameter slot).message.toList := by
  have digits : NulFree (toString slot).toList := by
    rw [Nat.toString_eq_ofList_toDigits, String.toList_ofList]
    exact Digits.nulFree_ofNat slot
  have spelled : (unboundParameter slot).message =
      "monetdbe_execute: parameter " ++ toString slot ++ " is not bound" := rfl
  rw [spelled, String.toList_append, String.toList_append, nulFree_append, nulFree_append]
  exact ⟨⟨by simp [NulFree], digits⟩, by simp [NulFree]⟩

namespace Usage.Remembers

variable {usage : Usage} {home : Handle .database} {parsed : Statement}
  {parameters : List DeclaredType} {now : Database}

/-- What was bound to a parameter is recorded. -/
theorem getElem?_recordings_of_bound (remembers : usage.Remembers home parsed parameters)
    {slot : Nat} (bound : (Argument.last? usage.accepted (slot + 1)).isSome) :
    ∃ recorded, (Argument.recordings parameters usage.accepted)[slot]? = some (some recorded) := by
  obtain ⟨argument, last⟩ := Option.isSome_iff_exists.1 bound
  obtain ⟨entry, found, rfl⟩ := Option.map_eq_some_iff.1 last
  have index : entry.1 = slot + 1 := by
    have chosen := List.find?_some found
    exact of_decide_eq_true chosen
  obtain ⟨_, type, recorded, typed, records⟩ :=
    remembers.stands entry (List.mem_of_find?_eq_some found)
  rw [index, Nat.add_sub_cancel] at typed
  exact ⟨recorded, by rw [Argument.getElem?_recordings, typed, last, Option.map_some,
    Option.bind_some, records]⟩

/-- What is recorded for a parameter is missing just if nothing was bound to it. -/
theorem getElem?_recordings_eq_none_iff (remembers : usage.Remembers home parsed parameters)
    {slot : Nat} (inside : slot < parameters.length) :
    (Argument.recordings parameters usage.accepted)[slot]? = some none ↔
      Argument.last? usage.accepted (slot + 1) = none := by
  constructor
  · intro absent
    by_contra bound
    obtain ⟨recorded, there⟩ :=
      remembers.getElem?_recordings_of_bound (Option.isSome_iff_ne_none.2 bound)
    cases absent.symm.trans there
  · intro unbound
    rw [Argument.getElem?_recordings, List.getElem?_eq_getElem inside, unbound]
    rfl

/-- An execution runs with what was bound last, once something was bound to every parameter. -/
theorem execute_of_bound (remembers : usage.Remembers home parsed parameters)
    (present : usage.engine.database? (some home) = some now) (options : QueryOptions)
    (bound : ∀ slot < parameters.length,
      (Argument.last? usage.accepted (slot + 1)).isSome) :
    ∃ recorded, Argument.recordings parameters usage.accepted = recorded.map some ∧
      usage.statement.execute options usage.engine =
        (Api.check .execute (Engine.run home now true (now.execute parsed recorded)) >>=
          fun executed => Outcome.ofExecuted usage.statement.connection executed options)
            usage.engine := by
  obtain ⟨recorded, same⟩ :
      Argument.recordings parameters usage.accepted ∈ Set.range (List.map some) := by
    rw [Set.range_list_map]
    intro content member
    obtain ⟨slot, inside, rfl⟩ := List.getElem_of_mem member
    have within : slot < parameters.length := by
      rwa [Argument.recordings, List.length_mapIdx] at inside
    obtain ⟨value, there⟩ := remembers.getElem?_recordings_of_bound (bound slot within)
    exact ⟨value, Option.some.inj (there.symm.trans (List.getElem?_eq_getElem inside))⟩
  refine ⟨recorded, same.symm, ?_⟩
  have entry := PreparedStatement.execute_inProcess remembers.tracks.inProcess remembers.kept
    present
  rw [StoredStatement.values_of_bound same.symm] at entry
  have called : Api.check .execute
      (usage.statement.connection.api.table.execute (some usage.statement.handle)) usage.engine =
        Api.check .execute (Engine.run home now true (now.execute parsed recorded))
          usage.engine := by
    unfold Api.check
    rw [entry]
    rfl
  exact Call.bind_congr called

/-- An execution fails as long as nothing was bound to a parameter, and reports the first. -/
theorem execute_of_unbound (remembers : usage.Remembers home parsed parameters)
    (present : usage.engine.database? (some home) = some now) (options : QueryOptions)
    {slot : Nat} (inside : slot < parameters.length)
    (unbound : Argument.last? usage.accepted (slot + 1) = none)
    (first : ∀ earlier < slot, (Argument.last? usage.accepted (earlier + 1)).isSome) :
    ∃ text, usage.statement.execute options usage.engine =
      (.error (.native .execute s!"monetdbe_execute: parameter {slot} is not bound"),
        usage.engine.report (some home) text) := by
  have missing := (remembers.getElem?_recordings_eq_none_iff inside).2 unbound
  have entry := PreparedStatement.execute_inProcess remembers.tracks.inProcess remembers.kept
    present
  rw [StoredStatement.values_of_unbound missing fun earlier before absent => by
    obtain ⟨value, there⟩ := remembers.getElem?_recordings_of_bound (first earlier before)
    cases absent.symm.trans there] at entry
  -- the reason becomes the last error of the database, and a text without NUL reaches the caller
  -- as it is
  obtain ⟨changed, refused⟩ : ∃ changed, Engine.run home now true
      (.error (.unboundParameter slot)) usage.engine =
        (.error (NativeText.blankingNul (Failure.unboundParameter slot).message), changed) :=
    ⟨_, rfl⟩
  obtain rfl := Engine.reports_refuse present _ _ changed refused
  have denied : usage.statement.execute options usage.engine =
      (.error (.native .execute
        (NativeText.blankingNul (Failure.unboundParameter slot).message).toString),
        usage.engine.report (some home) _) :=
    Call.bind_of_error (Api.check_of_error (entry.trans refused))
  rw [NativeText.toString_blankingNul (Failure.nulFree_unboundParameter slot)] at denied
  exact ⟨_, denied⟩

end Usage.Remembers

/-! ## Whatever is done with a statement -/

/-- A statement in use runs with what was bound last: this is what the engine has recorded, an
execution runs with these values, and fails as long as one is missing. -/
structure Usage.RunsWithLast (usage : Usage) (home : Handle .database) (parsed : Statement)
    (parameters : List DeclaredType) : Prop where
  kept : usage.engine.statement? (some usage.statement.handle) =
    some ⟨home, parsed, parameters, Argument.recordings parameters usage.accepted⟩
  missing_iff : ∀ slot < parameters.length,
    (Argument.recordings parameters usage.accepted)[slot]? = some none ↔
      Argument.last? usage.accepted (slot + 1) = none
  runs : ∀ now options, usage.engine.database? (some home) = some now →
    (∀ slot < parameters.length, (Argument.last? usage.accepted (slot + 1)).isSome) →
    ∃ recorded, Argument.recordings parameters usage.accepted = recorded.map some ∧
      usage.statement.execute options usage.engine =
        (Api.check .execute (Engine.run home now true (now.execute parsed recorded)) >>=
          fun executed => Outcome.ofExecuted usage.statement.connection executed options)
            usage.engine
  /-- The first parameter that was never bound is named, and no table is changed. -/
  refuses : ∀ options, ∀ slot < parameters.length,
    Argument.last? usage.accepted (slot + 1) = none →
    (∀ earlier < slot, (Argument.last? usage.accepted (earlier + 1)).isSome) →
    ∃ reason failed, usage.statement.execute options usage.engine =
        (.error (.native .execute s!"monetdbe_execute: parameter {slot} is not bound"), failed) ∧
      Engine.SameButLastError (some home) reason usage.engine failed

namespace PreparedStatement

section Prepared

variable {connection : Connection Engine} {text : String} {engine start : Engine}
  {prepared : PreparedStatement Engine}

/-- **A statement runs with what was bound last**, whatever was bound and executed before, and
with which success. -/
theorem runs_with_last (inProcess : connection.InProcess)
    (matching : ∀ database, engine.database? (some connection.handle) = some database →
      database.layout = connection.api.layout)
    (accepted : connection.prepare text engine = (.ok prepared, start))
    (operations : List Usage.Operation)
    (spares : ∀ operation ∈ operations, operation.Spares prepared) :
    ∃ database parsed parameters, engine.database? (some connection.handle) = some database ∧
      Statement.parse text = .ok parsed ∧ database.parameterTypes parsed = .ok parameters ∧
      ((Usage.start prepared start).run operations).engine.IsOpen connection.handle ∧
      ((Usage.start prepared start).run operations).RunsWithLast connection.handle parsed
        parameters := by
  obtain ⟨database, parsed, parameters, found, read, typed, databases, rfl, tracks, kept, _⟩ :=
    described_of_prepare inProcess matching accepted
  have isOpen : start.IsOpen prepared.connection.handle :=
    ⟨database, (congrArg (fun kept => Engine.follow kept prepared.connection.handle)
      databases).trans found⟩
  have begun : (Usage.start prepared start).Remembers prepared.connection.handle parsed
      parameters :=
    ⟨tracks, isOpen, (Argument.recordings_nil parameters).symm ▸ kept, fun _ => nofun⟩
  obtain ⟨remembers, _, same⟩ := begun.run spares
  have stillOpen := remembers.isOpen
  rw [same] at stillOpen
  refine ⟨database, parsed, parameters, found, read, typed, stillOpen, remembers.kept,
    fun slot inside => remembers.getElem?_recordings_eq_none_iff inside,
    fun now options present bound => remembers.execute_of_bound present options bound, ?_⟩
  intro options slot inside unbound first
  obtain ⟨now, present⟩ := stillOpen
  obtain ⟨reason, failed⟩ := remembers.execute_of_unbound present options inside unbound first
  exact ⟨reason, _, failed, Engine.sameButLastError_report _ _ _⟩

end Prepared

/-- An empty table with two columns. -/
def emptyTable : List Engine.Request :=
  [.openDatabase ⟨true⟩ true none none, .sql "CREATE TABLE t (a INT, b VARCHAR(5))"]

/-- A row is to be inserted. -/
def rowPrepared : Except Error (PreparedStatement Engine) × Engine :=
  (Connection.toFirst ⟨true⟩).prepare "INSERT INTO t VALUES (?, ?)" (Engine.after emptyTable)

/-- The first parameter does not take the text, and there is no third. -/
def rowOperations : List Usage.Operation :=
  [.bind 2 (.value (.str "x")), .bind 1 (.value (.str "y")), .execute ⟨false, 0⟩, .bind 1 .null,
    .bind 3 .null, .execute ⟨false, 0⟩, .bind 2 .null]

/-- Three of these binds succeed. -/
theorem runs_with_last_row : ∃ prepared start, rowPrepared = (.ok prepared, start) ∧
    ((Usage.start prepared start).run rowOperations).accepted.map Prod.fst = [2, 1, 2] ∧
    ∃ parsed parameters, ((Usage.start prepared start).run rowOperations).RunsWithLast
      ⟨.engine, 0⟩ parsed parameters := by
  have shown : rowPrepared.1.toOption.map (fun prepared =>
      ((Usage.start prepared rowPrepared.2).run rowOperations).accepted.map Prod.fst) =
      some [2, 1, 2] := by
    decide +kernel
  obtain ⟨prepared, answered, bound⟩ := Option.map_eq_some_iff.1 shown
  have accepted := Call.eq_of_toOption answered
  have spares : ∀ operation ∈ rowOperations, operation.Spares prepared := by
    simp [rowOperations, Usage.Operation.Spares]
  obtain ⟨_, parsed, parameters, _, _, _, _, runs⟩ :=
    runs_with_last (Connection.inProcess_toFirst _)
      (fun _ => (Engine.openedWith_after _ _ _ _).layout_of_database?) accepted rowOperations spares
  exact ⟨prepared, _, accepted, bound, parsed, parameters, runs⟩

end PreparedStatement

end ColumnStore
