import ColumnStore.Proofs.Client.Description
import ColumnStore.Proofs.Client.Parameter
import ColumnStore.Proofs.Engine.Statements

/-!
# Binding values to parameters

A statement that was prepared knows its parameters by the storage and the scale of their
declared types, and the engine keeps it with a place for each parameter. From then on callers
bind values and native data, and make any other calls that spare the statement (`Bindings`).
Whatever they do, each parameter that was last given a value has it recorded as its declared
type says (`Tracks`), also when attempts to bind others were refused in between.

Main results: `PreparedStatement.tracks_of_prepare` and `PreparedStatement.tracks_of_bindings`.
-/

set_option autoImplicit false

namespace ColumnStore

/-! ## What is kept of the parameters -/

/-- For parameters of these types, the engine has recorded what they are known to be given. -/
structure Binds (parameters : List DeclaredType) (given bound : List (Option Value)) : Prop where
  given_length : given.length = parameters.length
  bound_length : bound.length = parameters.length
  records : ∀ (slot : Nat) (type : DeclaredType) (value : Value),
    parameters[slot]? = some type → given[slot]? = some (some value) →
    ∃ recorded, bound[slot]? = some (some recorded) ∧ type.Records value recorded

namespace Binds

variable {parameters : List DeclaredType} {given bound : List (Option Value)}

/-- Nothing need be known of what is recorded. -/
theorem unknown (count : bound.length = parameters.length) :
    Binds parameters (parameters.map fun _ => none) bound := by
  refine ⟨List.length_map _, count, fun slot type value found here => ?_⟩
  rw [List.getElem?_map, found] at here
  cases here

/-- Nothing is given at first. -/
theorem start (parameters : List DeclaredType) :
    Binds parameters (parameters.map fun _ => none) (parameters.map fun _ => none) :=
  unknown (List.length_map _)

/-- A parameter is given a value, or something that is not known as one. -/
theorem set (binds : Binds parameters given bound) {slot : Nat} {type : DeclaredType}
    (found : parameters[slot]? = some type) {given? : Option Value} {recorded : Value}
    (records : ∀ value, given? = some value → type.Records value recorded) :
    Binds parameters (given.set slot given?) (bound.set slot (some recorded)) := by
  refine ⟨by rw [List.length_set, binds.given_length], by rw [List.length_set, binds.bound_length],
    fun other known value there here => ?_⟩
  by_cases same : slot = other
  · subst same
    have inside : slot < parameters.length := (List.getElem?_eq_some_iff.1 found).1
    rw [List.getElem?_set_self (binds.given_length ▸ inside)] at here
    rw [found] at there
    cases there
    exact ⟨recorded, List.getElem?_set_self (binds.bound_length ▸ inside),
      records value (Option.some.inj here)⟩
  · rw [List.getElem?_set_ne same] at here ⊢
    exact binds.records other known value there here

/-- A parameter that nothing is recorded for is not known to be given anything. -/
theorem given_eq_none (binds : Binds parameters given bound) {slot : Nat}
    (unbound : bound[slot]? = some none) : given[slot]? = some none := by
  have inside : slot < parameters.length :=
    binds.bound_length ▸ (List.getElem?_eq_some_iff.1 unbound).1
  obtain ⟨content, there⟩ : ∃ content, given[slot]? = some content :=
    ⟨_, List.getElem?_eq_getElem (binds.given_length ▸ inside)⟩
  cases content with
  | none => exact there
  | some value =>
      obtain ⟨recorded, other, _⟩ :=
        binds.records slot _ value (List.getElem?_eq_getElem inside) there
      cases unbound.symm.trans other

/-- If every parameter is given a value, each of them is recorded. -/
theorem exists_recorded {values : List Value} (binds : Binds parameters (values.map some) bound) :
    ∃ recorded, bound = recorded.map some ∧
      DeclaredType.RecordsEach parameters values recorded := by
  have count : values.length = parameters.length := by
    rw [← binds.given_length, List.length_map]
  have each (slot : Nat) (type : DeclaredType) (typed : parameters[slot]? = some type) :
      ∃ value content, values[slot]? = some value ∧ bound[slot]? = some (some content) ∧
        type.Records value content := by
    have inside : slot < values.length := count ▸ (List.getElem?_eq_some_iff.1 typed).1
    have given : (values.map some)[slot]? = some (some values[slot]) := by
      rw [List.getElem?_map, List.getElem?_eq_getElem inside, Option.map_some]
    obtain ⟨content, there, records⟩ := binds.records slot type _ typed given
    exact ⟨_, content, List.getElem?_eq_getElem inside, there, records⟩
  have known : bound = (bound.map (·.getD .null)).map some := by
    apply List.ext_getElem?
    intro slot
    rw [List.map_map, List.getElem?_map]
    cases here : bound[slot]? with
    | none => rfl
    | some content =>
        have inside : slot < parameters.length :=
          binds.bound_length ▸ (List.getElem?_eq_some_iff.1 here).1
        obtain ⟨_, content, _, there, _⟩ := each slot _ (List.getElem?_eq_getElem inside)
        cases here.symm.trans there
        rfl
  refine ⟨_, known, fun slot type typed => ?_⟩
  obtain ⟨value, content, given, there, records⟩ := each slot type typed
  exact ⟨value, content, given, by rw [List.getElem?_map, there]; rfl, records⟩

end Binds

/-- The values of a statement whose parameters all have one. -/
theorem StoredStatement.values_of_bound {stored : StoredStatement} {recorded : List Value}
    (known : stored.bound = recorded.map some) : stored.values = .ok recorded := by
  rw [values, known]
  apply Except.mapM_zipIdx_of_forall₂
  rw [List.forall₂_map_left_iff, List.forall₂_same]
  exact fun _ _ _ => rfl

namespace PreparedStatement

/-- The engine keeps the statement for these parameters, which are known to be given this. -/
structure Tracks (statement : PreparedStatement Engine) (home : Handle .database)
    (parsed : Statement) (parameters : List DeclaredType) (given : List (Option Value))
    (engine : Engine) : Prop where
  inProcess : statement.connection.InProcess
  types_eq : statement.types = parameters.map DeclaredType.storage
  scales_eq : statement.metadata.scales = parameters.map DeclaredType.scale
  opened : engine.OpenedWith statement.connection.handle statement.connection.api.layout
  kept : ∃ bound, engine.statement? (some statement.handle) =
    some ⟨home, parsed, parameters, bound⟩ ∧ Binds parameters given bound

end PreparedStatement

/-! ## Preparing -/

namespace Engine

section Prepare

variable {handle : Handle .database} {text : NativeText} {engine : Engine} {database : Database}

theorem prepare_of_closed (closed : engine.database? (some handle) = none) :
    prepare (some handle) (some text) true true engine =
      (.error (invalid .database), engine) := by
  simp only [prepare, onDatabase, closed]

theorem prepare_of_error {failure : Failure}
    (found : engine.database? (some handle) = some database)
    (refused : (do database.prepare handle (← Statement.parse text.toString)) = .error failure) :
    prepare (some handle) (some text) true true engine =
      refuse handle database failure engine := by
  simp only [prepare, onDatabase, found, refused]
  rfl

/-- A statement is handed out along with its description. -/
theorem prepare_of_ok {preparation : Preparation}
    (found : engine.database? (some handle) = some database)
    (made : (do database.prepare handle (← Statement.parse text.toString)) = .ok preparation) :
    prepare (some handle) (some text) true true engine =
      let added := engine.addStatement preparation.stored preparation.tags
      let shown := added.2.addResult preparation.description
      (.ok ⟨some added.1, some shown.1⟩, shown.2) := by
  simp only [prepare, onDatabase, found, made]
  rfl

/-- A statement is prepared in a database. -/
theorem prepare_eq_ok {next : Engine} {answer : Prepared}
    (prepared : prepare (some handle) (some text) true true engine = (.ok answer, next)) :
    ∃ database parsed preparation, engine.database? (some handle) = some database ∧
      Statement.parse text.toString = .ok parsed ∧
      database.prepare handle parsed = .ok preparation := by
  cases found : engine.database? (some handle) with
  | none => cases (prepare_of_closed found).symm.trans prepared
  | some database =>
      cases attempt : (do database.prepare handle (← Statement.parse text.toString)) with
      | error failure => cases (prepare_of_error found attempt).symm.trans prepared
      | ok preparation =>
          obtain ⟨parsed, read, made⟩ := Except.bind_eq_ok.1 attempt
          exact ⟨database, parsed, preparation, rfl, read, made⟩

end Prepare

end Engine

/-- What preparing a statement makes, if it succeeds. -/
theorem Database.prepare_eq_ok {database : Database} {handle : Handle .database}
    {parsed : Statement} {preparation : Preparation}
    (prepared : database.prepare handle parsed = .ok preparation) :
    ∃ parameters table outputs, database.parameterTypes parsed = .ok parameters ∧
      preparation.stored = ⟨handle, parsed, parameters, parameters.map fun _ => none⟩ ∧
      List.Forall₂ (fun type tag => OutputColumn.tag database.layout type = .ok tag) parameters
        preparation.tags ∧
      description database.layout table outputs parameters = .ok preparation.description ∧
      database.outputs parsed = .ok (table, outputs) := by
  obtain ⟨parameters, typed, prepared⟩ := Except.bind_eq_ok.1 prepared
  obtain ⟨⟨table, outputs⟩, returned, prepared⟩ := Except.bind_eq_ok.1 prepared
  obtain ⟨description, described, prepared⟩ := Except.bind_eq_ok.1 prepared
  obtain ⟨tags, tagged, whole⟩ := Except.bind_eq_ok.1 prepared
  cases whole
  exact ⟨parameters, table, outputs, typed, rfl, Except.mapM_eq_ok.1 tagged, described, returned⟩

namespace PreparedStatement

/-- The tags of the parameters name the storage of their types. -/
theorem typesOfTags_eq {layout : TagLayout} {parameters : List DeclaredType} {tags : List Int32}
    (each : List.Forall₂ (fun type tag => OutputColumn.tag layout type = .ok tag) parameters tags) :
    typesOfTags layout tags = .ok (parameters.map DeclaredType.storage) := by
  apply Except.mapM_zipIdx_of_forall₂
  rw [List.forall₂_map_right_iff]
  refine each.flip.imp fun tag type tagged position => ?_
  rw [OutputColumn.decode?_of_tag tagged]
  rfl

/-- A statement shows the tags of all its parameters. -/
theorem shownTags_addStatement {stored : StoredStatement} {tags : List Int32}
    (count : stored.parameters.length = tags.length) (engine : Engine) :
    shownTags (engine.addStatement stored tags).1 = tags := by
  show tags.take (stored.parameters.length : Int).toNat = _
  rw [Int.toNat_natCast, count, List.take_length]

/-- **A statement that the database prepares is kept by the engine**, and nothing is given yet. -/
theorem exists_prepare {connection : Connection Engine} {text : String} {sent : NativeText}
    {engine : Engine} {database : Database} {parsed : Statement} {preparation : Preparation}
    (inProcess : connection.InProcess)
    (opened : engine.database? (some connection.handle) = some database)
    (matching : database.layout = connection.api.layout)
    (handed : Connection.terminated text = .ok sent) (spelled : Statement.parse text = .ok parsed)
    (made : database.prepare connection.handle parsed = .ok preparation) :
    ∃ parameters statement final, database.parameterTypes parsed = .ok parameters ∧
      connection.prepare text engine = (.ok statement, final) ∧
      final.databases = engine.databases ∧ statement.connection = connection ∧
      Tracks statement connection.handle parsed parameters (parameters.map fun _ => none)
        final ∧
      final.statement? (some statement.handle) =
        some ⟨connection.handle, parsed, parameters, parameters.map fun _ => none⟩ ∧
      ∃ table outputs, database.outputs parsed = .ok (table, outputs) ∧
        statement.metadata = (Metadata.declared outputs parameters).told := by
  obtain ⟨parameters, table, outputs, typed, stored, tags, laid, returned⟩ :=
    Database.prepare_eq_ok made
  rw [matching] at tags laid
  let added := engine.addStatement preparation.stored preparation.tags
  let shown := added.2.addResult preparation.description
  have entry : connection.api.prepare connection.handle sent engine =
      (.ok (added.1, some shown.1), shown.2) := by
    have attempt : (do database.prepare connection.handle (← Statement.parse sent.toString)) =
        .ok preparation := by
      rw [Connection.toString_of_terminated handed, spelled]
      exact made
    refine Call.bind_eq_ok.2 ⟨⟨some added.1, some shown.1⟩, shown.2, Api.check_of_ok ?_, rfl⟩
    rw [inProcess]
    exact Engine.prepare_of_ok opened attempt
  have decoded : typesOfTags connection.api.layout (shownTags added.1) =
      .ok (parameters.map DeclaredType.storage) := by
    have count : preparation.stored.parameters.length = preparation.tags.length := by
      rw [stored]
      exact tags.length_eq
    rw [shownTags_addStatement count, typesOfTags_eq tags]
  have still : shown.2.database? (some connection.handle) = some database := opened
  obtain ⟨final, described, unchanged⟩ := exists_describe inProcess still
    laid (Engine.result?_addResult_self added.2 preparation.description) rfl
  have taken : ofPrepared connection added.1 (some shown.1) shown.2 =
      (.ok ⟨connection, added.1.handle, parameters.map DeclaredType.storage,
        (Metadata.declared outputs parameters).told,
        (parameters.map DeclaredType.storage).map fun _ => none⟩, final) := by
    refine Call.tryCatch_of_ok (Call.bind_eq_ok.2 ⟨_, _, Api.settle_eq_ok.2 ⟨decoded, rfl⟩, ?_⟩)
    exact Call.bind_eq_ok.2 ⟨_, final, described, rfl⟩
  have databases : final.databases = engine.databases := unchanged.databases_eq
  have known : engine.OpenedWith connection.handle connection.api.layout :=
    matching ▸ Engine.OpenedWith.of_database? opened
  have kept : final.statement? (some added.1.handle) =
      some ⟨connection.handle, parsed, parameters, parameters.map fun _ => none⟩ := by
    have statements : final.statements = added.2.statements := unchanged.statements_eq
    rw [Engine.statement?, statements, ← stored]
    exact Engine.statement?_addStatement_self engine preparation.stored preparation.tags
  exact ⟨parameters, _, final, typed, Call.bind_eq_ok.2 ⟨sent, engine,
    Api.settle_eq_ok.2 ⟨handed, rfl⟩, Call.bind_eq_ok.2 ⟨_, _, entry, taken⟩⟩, databases, rfl,
    ⟨inProcess, rfl, Metadata.scales_told_declared outputs parameters,
      ⟨databases ▸ known.given, databases ▸ known.layout_eq⟩, _, kept, Binds.start parameters⟩,
    kept, table, outputs, returned, rfl⟩

section Prepared

variable {connection : Connection Engine} {text : String} {engine final : Engine}
  {statement : PreparedStatement Engine}

/-- A statement that was prepared was prepared by the database: it is kept without any value, and
the columns that it returns and its parameters are told as they are declared. -/
theorem declared_of_prepare (inProcess : connection.InProcess)
    (matching : ∀ database, engine.database? (some connection.handle) = some database →
      database.layout = connection.api.layout)
    (prepared : connection.prepare text engine = (.ok statement, final)) :
    ∃ database parsed parameters,
      engine.database? (some connection.handle) = some database ∧
      Statement.parse text = .ok parsed ∧ database.parameterTypes parsed = .ok parameters ∧
      final.databases = engine.databases ∧ statement.connection = connection ∧
      Tracks statement connection.handle parsed parameters (parameters.map fun _ => none)
        final ∧
      final.statement? (some statement.handle) =
        some ⟨connection.handle, parsed, parameters, parameters.map fun _ => none⟩ ∧
      ∃ table outputs, database.outputs parsed = .ok (table, outputs) ∧
        statement.metadata = (Metadata.declared outputs parameters).told := by
  obtain ⟨sent, middle, settled, rest⟩ := Call.bind_eq_ok.1 prepared
  obtain ⟨terminated, rfl⟩ := Api.settle_eq_ok.1 settled
  obtain ⟨answer, next, called, _⟩ := Call.bind_eq_ok.1 rest
  obtain ⟨stored, after, checked, _⟩ := Call.bind_eq_ok.1 called
  have entry := Api.check_eq_ok.1 checked
  rw [inProcess] at entry
  obtain ⟨database, parsed, preparation, found, read, made⟩ := Engine.prepare_eq_ok entry
  rw [Connection.toString_of_terminated terminated] at read
  obtain ⟨parameters, other, last, typed, again, known⟩ :=
    exists_prepare inProcess found (matching database found) terminated read made
  cases prepared.symm.trans again
  exact ⟨database, parsed, parameters, found, read, typed, known⟩

/-- A statement that was prepared was prepared by the database: it is kept without any value, and
is told as it is. -/
theorem described_of_prepare (inProcess : connection.InProcess)
    (matching : ∀ database, engine.database? (some connection.handle) = some database →
      database.layout = connection.api.layout)
    (prepared : connection.prepare text engine = (.ok statement, final)) :
    ∃ database parsed parameters,
      engine.database? (some connection.handle) = some database ∧
      Statement.parse text = .ok parsed ∧ database.parameterTypes parsed = .ok parameters ∧
      final.databases = engine.databases ∧ statement.connection = connection ∧
      Tracks statement connection.handle parsed parameters (parameters.map fun _ => none)
        final ∧
      final.statement? (some statement.handle) =
        some ⟨connection.handle, parsed, parameters, parameters.map fun _ => none⟩ ∧
      ∃ outputs, statement.metadata = (Metadata.declared outputs parameters).told := by
  obtain ⟨database, parsed, parameters, found, read, typed, databases, same, tracks, kept, _,
    outputs, _, told⟩ := declared_of_prepare inProcess matching prepared
  exact ⟨database, parsed, parameters, found, read, typed, databases, same, tracks, kept, outputs,
    told⟩

/-- The engine keeps a statement that was prepared, and nothing is given yet. -/
theorem tracks_of_prepare (inProcess : connection.InProcess)
    (matching : ∀ database, engine.database? (some connection.handle) = some database →
      database.layout = connection.api.layout)
    (prepared : connection.prepare text engine = (.ok statement, final)) :
    ∃ database parsed parameters,
      engine.database? (some connection.handle) = some database ∧
      Statement.parse text = .ok parsed ∧ database.parameterTypes parsed = .ok parameters ∧
      final.databases = engine.databases ∧ statement.connection = connection ∧
      Tracks statement connection.handle parsed parameters (parameters.map fun _ => none)
        final := by
  obtain ⟨database, parsed, parameters, found, read, typed, databases, same, tracks, _⟩ :=
    described_of_prepare inProcess matching prepared
  exact ⟨database, parsed, parameters, found, read, typed, databases, same, tracks⟩

end Prepared

end PreparedStatement

/-! ## Binding -/

/-- An attempt to bind is accepted by the statement, or changes none. -/
theorem Engine.bind_of_statement {engine final : Engine} {handle : Handle .statement}
    {stored : StoredStatement} {datum : Option NativeDatum} {index : Nat} {outcome : Reply Unit}
    (known : engine.statement? (some handle) = some stored)
    (answered : bind (some handle) datum index engine = (outcome, final)) :
    (∃ bound, outcome = .ok () ∧ stored.bind datum index = .ok bound ∧
      final = engine.setStatement handle bound) ∨
    ∃ text, outcome = .error text ∧ final.statements = engine.statements := by
  simp only [bind, onStatement, known] at answered
  split at answered
  · next database found =>
      cases accepted : stored.bind datum index with
      | ok bound =>
          rw [accepted] at answered
          cases answered
          exact .inl ⟨bound, rfl, rfl, rfl⟩
      | error failure =>
          rw [accepted] at answered
          cases answered
          exact .inr ⟨_, rfl, rfl⟩
  · cases answered
    exact .inr ⟨_, rfl, rfl⟩

namespace PreparedStatement

section Attempts

variable {statement : PreparedStatement Engine} {engine : Engine}

/-- The engine is asked to bind a datum. -/
theorem install_snd (inProcess : statement.connection.InProcess) (slot : Nat)
    (datum : NativeDatum) : (PreparedStatement.install slot datum statement engine).2 =
      (Engine.Request.bind (some statement.handle) (some datum) slot).perform engine := by
  have called : (statement.connection.api.bind statement.handle datum slot engine).2 =
      (statement.connection.api.table.bind (some statement.handle) (some datum) slot engine).2 :=
    Api.check_snd
  rw [inProcess] at called
  exact called

/-- **What is handed to the engine is recorded as it is read, or nothing is changed.** -/
theorem install_cases {stored : StoredStatement} (inProcess : statement.connection.InProcess)
    (kept : engine.statement? (some statement.handle) = some stored) (slot : Nat)
    (datum : NativeDatum) :
    let attempt := PreparedStatement.install slot datum statement engine
    (∃ type recorded, stored.parameters[slot]? = some type ∧
      StoredStatement.read type datum = .ok recorded ∧ attempt.1.1 = .ok () ∧
      attempt.2.statement? (some statement.handle) =
        some { stored with bound := stored.bound.set slot (some recorded) }) ∨
    ∃ error, attempt.1.1 = .error error ∧
      attempt.2.statement? (some statement.handle) = some stored := by
  rcases answered : Engine.bind (some statement.handle) (some datum) slot engine with
    ⟨outcome, final⟩
  have entry : statement.connection.api.table.bind (some statement.handle) (some datum) slot
      engine = (outcome, final) := by
    rw [inProcess]
    exact answered
  unfold PreparedStatement.install
  rcases Engine.bind_of_statement kept answered with
    ⟨changed, rfl, accepted, rfl⟩ | ⟨text, rfl, same⟩
  · obtain ⟨_, type, recorded, ⟨⟩, found, read, rfl⟩ := StoredStatement.bind_eq_ok accepted
    have called : statement.connection.api.bind statement.handle datum slot engine = _ :=
      Api.check_of_ok entry
    rw [called]
    exact .inl ⟨type, recorded, found, read, rfl, Engine.follow_modify kept _⟩
  · have called : statement.connection.api.bind statement.handle datum slot engine = _ :=
      Api.check_of_error entry
    rw [called]
    exact .inr ⟨_, rfl, by rwa [Engine.statement?, same]⟩

/-- Parameters are counted from one, and only they have slots. -/
theorem slot_eq_ok {index slot : Nat} (found : statement.slot index = .ok slot) :
    slot = index - 1 ∧ slot < statement.types.length := by
  unfold PreparedStatement.slot at found
  dsimp only at found
  split at found
  · cases found
  · cases found
    exact ⟨rfl, by omega⟩

theorem index_ne_zero {index slot : Nat} (found : statement.slot index = .ok slot) :
    index ≠ 0 := by
  rintro rfl
  rw [PreparedStatement.slot, if_pos (.inl rfl)] at found
  cases found

/-- An attempt to bind comes to nothing, or hands the datum that was made to the engine. -/
theorem bindWith_cases (index : Nat)
    {datum : PreparedStatement Engine → Nat → Call Engine NativeDatum}
    (still : ∀ slot, (datum statement slot engine).2 = engine) :
    (∃ error, PreparedStatement.bindWith index datum statement engine =
      ((.error error, statement), engine)) ∨
    ∃ made, index ≠ 0 ∧ (datum statement (index - 1) engine).1 = .ok made ∧
      PreparedStatement.bindWith index datum statement engine =
        PreparedStatement.install (index - 1) made statement engine := by
  unfold PreparedStatement.bindWith
  cases found : statement.slot index with
  | error error => exact .inl ⟨error, rfl⟩
  | ok slot =>
      have positive := index_ne_zero found
      obtain ⟨rfl, _⟩ := slot_eq_ok found
      rcases made : datum statement (index - 1) engine with ⟨outcome, after⟩
      obtain rfl : after = engine := by
        have same := still (index - 1)
        rwa [made] at same
      cases outcome with
      | error error => exact .inl ⟨error, by simp only [made]⟩
      | ok content => exact .inr ⟨content, positive, rfl, by simp only [made]⟩

end Attempts

/-- What the parameters are known to be given after an attempt to bind one. -/
def givenAfter (given : List (Option Value)) (slot : Nat) (given? : Option Value) :
    Except Error Unit → List (Option Value)
  | .ok () => given.set slot given?
  | .error _ => given

section Tracks

variable {statement : PreparedStatement Engine} {home : Handle .database} {parsed : Statement}
  {parameters : List DeclaredType} {given : List (Option Value)} {engine : Engine}

theorem Tracks.length_types (tracks : Tracks statement home parsed parameters given engine) :
    statement.types.length = parameters.length := by
  rw [tracks.types_eq, List.length_map]

theorem Tracks.typeAt_eq (tracks : Tracks statement home parsed parameters given engine)
    {slot : Nat} {type : DeclaredType} (found : parameters[slot]? = some type) :
    statement.typeAt slot = type.storage := by
  rw [typeAt, tracks.types_eq, List.getElem?_map, found]
  rfl

theorem Tracks.scaleAt_eq (tracks : Tracks statement home parsed parameters given engine)
    {slot : Nat} {type : DeclaredType} (found : parameters[slot]? = some type) :
    statement.scaleAt slot = type.scale := by
  have scales : statement.metadata.parameters.map (·.scale) = parameters.map DeclaredType.scale :=
    tracks.scales_eq
  have length := congrArg List.length scales
  rw [List.length_map, List.length_map] at length
  rw [scaleAt, if_pos (length.trans tracks.length_types.symm), ← List.getElem?_map, scales,
    List.getElem?_map, found]
  rfl

/-- What the parameters are given need not be known. -/
theorem Tracks.unknown (tracks : Tracks statement home parsed parameters given engine) :
    Tracks statement home parsed parameters (parameters.map fun _ => none) engine := by
  obtain ⟨bound, kept, binds⟩ := tracks.kept
  exact { tracks with kept := ⟨bound, kept, .unknown binds.bound_length⟩ }

/-- Requests that spare the statement do not matter. -/
theorem Tracks.perform (tracks : Tracks statement home parsed parameters given engine)
    {request : Engine.Request} (spares : request.SparesStatement statement.handle) :
    Tracks statement home parsed parameters given (request.perform engine) := by
  obtain ⟨bound, kept, binds⟩ := tracks.kept
  exact { tracks with
    opened := Engine.openedWith_perform tracks.opened request
    kept := ⟨bound, Engine.statement?_perform kept spares, binds⟩ }

/-- The engine is handed a datum, which may stand for a value. -/
theorem Tracks.install (tracks : Tracks statement home parsed parameters given engine)
    {slot : Nat} {datum : NativeDatum} {given? : Option Value}
    (stands : ∀ type value, parameters[slot]? = some type → given? = some value →
      type.BindsAs value datum) :
    Tracks (PreparedStatement.install slot datum statement engine).1.2 home parsed parameters
      (givenAfter given slot given? (PreparedStatement.install slot datum statement engine).1.1)
      (PreparedStatement.install slot datum statement engine).2 := by
  obtain ⟨bound, kept, binds⟩ := tracks.kept
  have opened : (PreparedStatement.install slot datum statement engine).2.OpenedWith
      statement.connection.handle statement.connection.api.layout := by
    rw [install_snd tracks.inProcess]
    exact Engine.openedWith_perform tracks.opened _
  rcases install_cases tracks.inProcess kept slot datum with
    ⟨type, recorded, found, read, accepted, now⟩ | ⟨error, refused, still⟩
  · rw [accepted]
    exact { tracks with
      opened
      kept := ⟨_, now, binds.set found fun value same =>
        ⟨datum, stands type value found same, read⟩⟩ }
  · rw [refused]
    exact { tracks with opened, kept := ⟨bound, still, binds⟩ }

/-- Asking for the datum of NULL changes nothing, and the answer is the one that is reserved. -/
theorem Tracks.nullDatum (tracks : Tracks statement home parsed parameters given engine)
    (slot : Nat) : (statement.nullDatum slot engine).2 = engine ∧
      ∀ datum, (statement.nullDatum slot engine).1 = .ok datum →
        NativeDatum.sentinel? (statement.typeAt slot) = some datum := by
  have asked (tag : Int32) :
      statement.connection.api.table.nullValue (some statement.connection.handle) tag engine =
        Engine.nullValue (some statement.connection.handle) tag engine := by
    rw [tracks.inProcess]
    rfl
  have still : Call.Keeps (· = engine) (statement.nullDatum slot) := by
    refine (Api.keeps_settle _).bind fun tag => ?_
    have unchanged : Call.Keeps (· = engine) (ExceptT.mk
        (statement.connection.api.table.nullValue (some statement.connection.handle) tag)) := by
      rintro _ rfl
      exact congrArg Prod.snd (asked tag)
    refine unchanged.bind fun datum => ?_
    cases datum <;> exact fun _ same => same
  refine ⟨still engine rfl, fun datum made => ?_⟩
  obtain ⟨tag, middle, settled, rest⟩ := Call.bind_eq_ok.1
    (show statement.nullDatum slot engine = (.ok datum, _) from Prod.ext made rfl)
  obtain ⟨encoded, rfl⟩ := Api.settle_eq_ok.1 settled
  obtain ⟨found, next, answered, required⟩ := Call.bind_eq_ok.1 rest
  obtain ⟨reserved, rfl⟩ := Prod.mk.inj ((asked tag).symm.trans answered)
  cases found with
  | none => cases required
  | some found =>
      split at reserved
      · cases reserved
      · next database opened =>
          rw [tracks.opened.layout_of_database? opened,
            TagLayout.decode?_encode encoded] at reserved
          have same : Except.ok found = Except.ok datum := congrArg Prod.fst required
          cases same
          exact Except.ok.inj reserved

/-- A datum is made for a parameter, which may stand for a value, and is bound. -/
theorem Tracks.bindWith (tracks : Tracks statement home parsed parameters given engine)
    (index : Nat) {datum : PreparedStatement Engine → Nat → Call Engine NativeDatum}
    {given? : Option Value} (still : ∀ slot, (datum statement slot engine).2 = engine)
    (stands : ∀ slot type value made, parameters[slot]? = some type → given? = some value →
      (datum statement slot engine).1 = .ok made → type.BindsAs value made) :
    Tracks (PreparedStatement.bindWith index datum statement engine).1.2 home parsed parameters
      (givenAfter given (index - 1) given?
        (PreparedStatement.bindWith index datum statement engine).1.1)
      (PreparedStatement.bindWith index datum statement engine).2 := by
  rcases bindWith_cases index still with ⟨error, same⟩ | ⟨made, _, done, same⟩
  · rw [same]
    exact tracks
  · rw [same]
    exact tracks.install fun type value found given => stands _ type value made found given done

/-- What is made of a value stands for it. -/
theorem Tracks.valueDatum (tracks : Tracks statement home parsed parameters given engine)
    (value : Value) (slot : Nat) :
    let making := (if value.isNull then statement.nullDatum slot
      else Api.settle (Parameter.toDatum (statement.typeAt slot) (statement.scaleAt slot) value))
        engine
    making.2 = engine ∧ ∀ type made, parameters[slot]? = some type → making.1 = .ok made →
      type.BindsAs value made := by
  split
  · next absent =>
      refine ⟨(tracks.nullDatum slot).1, fun type made found done => ?_⟩
      rw [DeclaredType.BindsAs, if_pos absent, ← tracks.typeAt_eq found]
      exact (tracks.nullDatum slot).2 made done
  · next present =>
      refine ⟨rfl, fun type made found done => ?_⟩
      rw [DeclaredType.BindsAs, if_neg present, ← tracks.typeAt_eq found, ← tracks.scaleAt_eq found]
      exact done

/-- **An attempt to bind a value**: if it succeeds the parameter has been given the value. -/
theorem Tracks.bind (tracks : Tracks statement home parsed parameters given engine)
    (index : Nat) (value : Value) :
    Tracks (PreparedStatement.bind index value statement engine).1.2 home parsed parameters
      (givenAfter given (index - 1) (some value)
        (PreparedStatement.bind index value statement engine).1.1)
      (PreparedStatement.bind index value statement engine).2 := by
  refine tracks.bindWith index (fun slot => (tracks.valueDatum value slot).1) ?_
  rintro slot type other made found ⟨⟩ done
  exact (tracks.valueDatum value slot).2 type made found done

/-- An attempt to bind a native datum: if it succeeds no value is known for the parameter. -/
theorem Tracks.bindAs (tracks : Tracks statement home parsed parameters given engine)
    (type : ColumnType) (index : Nat) (datum : NativeDatum) :
    Tracks (PreparedStatement.bindAs type index datum statement engine).1.2 home parsed parameters
      (givenAfter given (index - 1) none
        (PreparedStatement.bindAs type index datum statement engine).1.1)
      (PreparedStatement.bindAs type index datum statement engine).2 :=
  tracks.bindWith index (fun _ => rfl) fun _ _ _ _ _ absent => nomatch absent

end Tracks

/-! ## Histories -/

/-- What may happen to a statement after it was prepared: values and native data are bound to its
parameters, and any requests are made that spare it. The list tells for each parameter the value
that it was last given, if it is known. -/
inductive Bindings (prepared : PreparedStatement Engine) (start : Engine) :
    PreparedStatement Engine → List (Option Value) → Engine → Prop
  | start : Bindings prepared start prepared (prepared.types.map fun _ => none) start
  | request {statement : PreparedStatement Engine} {given : List (Option Value)} {later : Engine}
      (earlier : Bindings prepared start statement given later) (request : Engine.Request)
      (spares : request.SparesStatement statement.handle) :
      Bindings prepared start statement given (request.perform later)
  | bind {statement : PreparedStatement Engine} {given : List (Option Value)} {later : Engine}
      (earlier : Bindings prepared start statement given later) (index : Nat) (value : Value) :
      Bindings prepared start (statement.bind index value later).1.2
        (givenAfter given (index - 1) (some value) (statement.bind index value later).1.1)
        (statement.bind index value later).2
  | bindAs {statement : PreparedStatement Engine} {given : List (Option Value)} {later : Engine}
      (earlier : Bindings prepared start statement given later) (type : ColumnType) (index : Nat)
      (datum : NativeDatum) :
      Bindings prepared start (bindAs type index datum statement later).1.2
        (givenAfter given (index - 1) none (bindAs type index datum statement later).1.1)
        (bindAs type index datum statement later).2

section Histories

variable {prepared statement changed : PreparedStatement Engine} {start later final : Engine}
  {given : List (Option Value)}

/-- A value is bound. -/
theorem Bindings.bind_of_ok (earlier : Bindings prepared start statement given later) {index : Nat}
    {value : Value} (bound : statement.bind index value later = ((.ok (), changed), final)) :
    Bindings prepared start changed (given.set (index - 1) (some value)) final := by
  have next := earlier.bind index value
  rwa [bound] at next

/-- Throughout its history a statement differs in its slots alone. -/
theorem slots_of_bindings (bindings : Bindings prepared start statement given later) :
    ∃ slots, statement = { prepared with slots } := by
  have next {statement changed : PreparedStatement Engine}
      (earlier : ∃ slots, statement = { prepared with slots })
      (bound : ∃ slots, changed = { statement with slots }) :
      ∃ slots, changed = { prepared with slots } := by
    obtain ⟨_, rfl⟩ := earlier
    obtain ⟨slots, rfl⟩ := bound
    exact ⟨slots, rfl⟩
  induction bindings with
  | start => exact ⟨_, rfl⟩
  | request _ _ _ ih => exact ih
  | bind _ _ _ ih => exact next ih (slots_bindWith _ _ _ _)
  | bindAs _ _ _ _ ih => exact next ih (slots_bindWith _ _ _ _)

theorem connection_of_bindings (bindings : Bindings prepared start statement given later) :
    statement.connection = prepared.connection := by
  obtain ⟨slots, rfl⟩ := slots_of_bindings bindings
  rfl

end Histories

/-- **Throughout its history a statement is tracked.** -/
theorem tracks_of_bindings {prepared statement : PreparedStatement Engine} {start later : Engine}
    {home : Handle .database} {parsed : Statement} {parameters : List DeclaredType}
    {given : List (Option Value)}
    (tracks : Tracks prepared home parsed parameters (parameters.map fun _ => none) start)
    (bindings : Bindings prepared start statement given later) :
    Tracks statement home parsed parameters given later := by
  induction bindings with
  | start =>
      rw [tracks.types_eq, List.map_map]
      exact tracks
  | request earlier request spares ih => exact ih.perform spares
  | bind earlier index value ih => exact ih.bind index value
  | bindAs earlier type index datum ih => exact ih.bindAs type index datum

end PreparedStatement

end ColumnStore
