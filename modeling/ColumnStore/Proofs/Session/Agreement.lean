import ColumnStore.Proofs.Client.Prepared
import ColumnStore.Proofs.Lists
import ColumnStore.Proofs.Session.Backend
import ColumnStore.Session

/-!
# Sessions of two layouts

The same steps are done twice, over engines of two layouts. Whatever is kept under a name agrees
up to the numbering of type tags, so every step answers the same and keeps this up, unless it
asks for a type that one of the layouts does not have (`Session.agree_step`). Only what shows the
layout differs.
-/

set_option autoImplicit false

namespace ColumnStore

variable {left right : TagLayout}

/-! ## What is kept under names -/

namespace Named

variable {α : Type} {same : α → α → Prop} {kept other : Named α}

/-- The same names in the same order, for things that agree. -/
def Agrees (same : α → α → Prop) (kept other : Named α) : Prop :=
  List.Forall₂ (fun entry second => entry.1 = second.1 ∧ same entry.2 second.2) kept other

theorem Agrees.find? (agree : Agrees same kept other) (name : String) :
    Option.Rel same (Named.find? kept name) (Named.find? other name) := by
  unfold Named.find?
  induction agree with
  | nil => exact .none
  | @cons entry second rest others head tail ih =>
      obtain ⟨key, thing⟩ := entry
      obtain ⟨_, another⟩ := second
      obtain ⟨rfl, agree⟩ := head
      rw [List.lookup_cons, List.lookup_cons]
      cases name == key with
      | true => exact .some agree
      | false => exact ih

/-- Entries that pass tests which do not tell apart what agrees. -/
theorem Agrees.filter (agree : Agrees same kept other) {test second : String × α → Bool}
    (tests : ∀ name thing another, same thing another →
      test (name, thing) = second (name, another)) :
    Agrees same (kept.filter test) (other.filter second) := by
  refine List.rel_filter ?_ agree
  rintro ⟨name, thing⟩ ⟨_, another⟩ ⟨rfl, agree⟩
  show test (name, thing) = true ↔ second (name, another) = true
  rw [tests name thing another agree]

/-- What passes a test, and what does not. -/
theorem Agrees.partition (agree : Agrees same kept other) {test : α → Bool}
    (tests : ∀ thing another, same thing another → test thing = test another) :
    Agrees same (kept.partition fun entry => test entry.2).1
        (other.partition fun entry => test entry.2).1 ∧
      Agrees same (kept.partition fun entry => test entry.2).2
        (other.partition fun entry => test entry.2).2 := by
  rw [List.partition_eq_filter_filter, List.partition_eq_filter_filter]
  constructor
  · exact agree.filter fun _ thing another same => tests thing another same
  · exact agree.filter fun _ thing another same => congrArg not (tests thing another same)

theorem Agrees.remove (agree : Agrees same kept other) (name : String) :
    Agrees same (Named.remove kept name) (Named.remove other name) :=
  agree.filter fun _ _ _ _ => rfl

theorem Agrees.put (agree : Agrees same kept other) (name : String) {thing another : α}
    (new : same thing another) : Agrees same (Named.put kept name thing)
      (Named.put other name another) :=
  .cons ⟨rfl, new⟩ (agree.remove name)

end Named

/-- The same owner, for things that agree. -/
structure Owned.Agrees {α : Type} (same : α → α → Prop) (kept other : Owned α) : Prop where
  owner : kept.owner = other.owner
  thing : same kept.thing other.thing

/-- The same databases, results and statements under the same names. -/
structure Session.Agrees (left right : TagLayout) (session other : Session) : Prop where
  backend : session.backend.Agrees left right other.backend
  connections : Named.Agrees (Connection.Agrees (Backend.Agrees left right) left right)
    session.connections other.connections
  results : Named.Agrees (Owned.Agrees (ResultSet.Agrees (Backend.Agrees left right) left right))
    session.results other.results
  statements : Named.Agrees
    (Owned.Agrees (PreparedStatement.Agrees (Backend.Agrees left right) left right))
    session.statements other.statements

/-! ## What is answered -/

/-- The same answer, but for the layout that a database or an API shows. -/
inductive Observation.Agrees (left right : TagLayout) : Observation → Observation → Prop
  | same (observation : Observation) : Agrees left right observation observation
  | layout : Agrees left right (.outcome (.ok (.layout left))) (.outcome (.ok (.layout right)))
  | description {connection other : Connection Backend} (result statement : Option String)
      (first : connection.api.layout = left) (second : other.api.layout = right)
      (path : connection.api.path = other.api.path) :
      Agrees left right
        (.outcome (.ok
          (.description connection.description connection.api.description result statement)))
        (.outcome (.ok (.description other.description other.api.description result statement)))

namespace Session

theorem agrees_empty (left right : TagLayout) : Agrees left right empty empty :=
  ⟨Backend.agrees_empty left right, .nil, .nil, .nil⟩

theorem agree_same (observation : Observation) :
    Agree (Agrees left right) (Observation.Agrees left right) (pure observation)
      (pure observation) :=
  agree_pure (.same observation)

section Calls

variable {α : Type} {same : α → α → Prop} {first second : Call Backend α}

theorem agree_call (agree : Call.Agree (Backend.Agrees left right) same first second) :
    Agree (Agrees left right) (Except.Agree same) (call first) (call second) := by
  intro session other start
  obtain ⟨answers, final⟩ := agree.outcomes start.backend
  exact ⟨answers, final, start.connections, start.results, start.statements⟩

theorem agree_ignore (agree : Call.Agree (Backend.Agrees left right) same first second) :
    Agree (Agrees left right) Eq (ignore first) (ignore second) :=
  (agree_call agree).bind fun _ _ _ => agree_pure rfl

theorem agree_respond (agree : Call.Agree (Backend.Agrees left right) Eq first second)
    (answer : α → Answer) :
    Agree (Agrees left right) (Observation.Agrees left right) (respond answer first)
      (respond answer second) := by
  refine (agree_call agree).bind ?_
  intro outcome _ answers
  rw [answers.eq]
  exact agree_same _

theorem agree_direct {action other : StateM Backend α}
    (agree : Agree (Backend.Agrees left right) Eq action other) (answer : α → Answer) :
    Agree (Agrees left right) (Observation.Agrees left right) (direct answer action)
      (direct answer other) := by
  intro session another start
  obtain ⟨answers, final⟩ := agree _ _ start.backend
  refine ⟨?_, final, start.connections, start.results, start.statements⟩
  show Observation.Agrees left right
    (.outcome (.ok (answer (action session.backend).1)))
    (.outcome (.ok (answer (other another.backend).1)))
  rw [answers]
  exact .same _

end Calls

/-! ## Names -/

theorem agree_onConnection (name : String)
    {go other : Connection Backend → Action Observation}
    (each : ∀ connection second,
      Connection.Agrees (Backend.Agrees left right) left right connection second →
      Agree (Agrees left right) (Observation.Agrees left right) (go connection) (other second)) :
    Agree (Agrees left right) (Observation.Agrees left right) (onConnection name go)
      (onConnection name other) := by
  refine agree_get.bind ?_
  intro session another start
  have found := start.connections.find? name
  generalize Named.find? session.connections name = first at found ⊢
  generalize Named.find? another.connections name = second at found ⊢
  cases found with
  | none => exact agree_same _
  | some agree => exact each _ _ agree

theorem agree_onResult (name : String)
    {go other : Owned (ResultSet Backend) → Action Observation}
    (each : ∀ kept second,
      Owned.Agrees (ResultSet.Agrees (Backend.Agrees left right) left right) kept second →
      Agree (Agrees left right) (Observation.Agrees left right) (go kept) (other second)) :
    Agree (Agrees left right) (Observation.Agrees left right) (onResult name go)
      (onResult name other) := by
  refine agree_get.bind ?_
  intro session another start
  have found := start.results.find? name
  generalize Named.find? session.results name = first at found ⊢
  generalize Named.find? another.results name = second at found ⊢
  cases found with
  | none => exact agree_same _
  | some agree => exact each _ _ agree

theorem agree_onStatement (name : String)
    {go other : Owned (PreparedStatement Backend) → Action Observation}
    (each : ∀ kept second,
      Owned.Agrees (PreparedStatement.Agrees (Backend.Agrees left right) left right) kept second →
      Agree (Agrees left right) (Observation.Agrees left right) (go kept) (other second)) :
    Agree (Agrees left right) (Observation.Agrees left right) (onStatement name go)
      (onStatement name other) := by
  refine agree_get.bind ?_
  intro session another start
  have found := start.statements.find? name
  generalize Named.find? session.statements name = first at found ⊢
  generalize Named.find? another.statements name = second at found ⊢
  cases found with
  | none => exact agree_same _
  | some agree => exact each _ _ agree

/-! ## Releasing -/

theorem agree_dropResults {test : Owned (ResultSet Backend) → Bool}
    (owners : ∀ kept other, kept.owner = other.owner → test kept = test other) :
    Agree (Agrees left right) Eq (dropResults test) (dropResults test) := by
  refine agree_get.bind ?_
  intro session other start
  obtain ⟨dropped, rest⟩ := start.results.partition fun thing another same =>
    owners thing another same.owner
  refine (agree_modify fun state second agree => ?_).bind_eq fun _ => ?_
  · exact ⟨agree.backend, agree.connections, rest, agree.statements⟩
  · apply Agree.forM dropped
    rintro entry second ⟨_, agree⟩
    exact agree_ignore (ResultSet.agree_close agree.thing)

theorem agree_dropStatements {test : Owned (PreparedStatement Backend) → Bool}
    (owners : ∀ kept other, kept.owner = other.owner → test kept = test other) :
    Agree (Agrees left right) Eq (dropStatements test) (dropStatements test) := by
  refine agree_get.bind ?_
  intro session other start
  obtain ⟨dropped, rest⟩ := start.statements.partition fun thing another same =>
    owners thing another same.owner
  refine (agree_modify fun state second agree => ?_).bind_eq fun _ => ?_
  · exact ⟨agree.backend, agree.connections, agree.results, rest⟩
  · apply Agree.forM dropped
    rintro entry second ⟨_, agree⟩
    exact agree_ignore (PreparedStatement.agree_release agree.thing)

theorem agree_closeNamed (name : String) {connection second : Connection Backend}
    (agree : Connection.Agrees (Backend.Agrees left right) left right connection second) :
    Agree (Agrees left right) (Except.Agree Eq) (closeNamed name connection)
      (closeNamed name second) := by
  refine (agree_dropResults fun _ _ same => by rw [same]).bind_eq fun _ => ?_
  refine (agree_dropStatements fun _ _ same => by rw [same]).bind_eq fun _ => ?_
  refine (agree_modify fun state other same => ?_).bind_eq fun _ => ?_
  · exact ⟨same.backend, same.connections.remove name, same.results, same.statements⟩
  · exact agree_call (Connection.agree_close agree)

/-! ## Opening -/

end Session

/-- The same opening, of the engine with a layout and without a script. -/
def Opening.inProcess (layout : TagLayout) (opening : Opening) : Opening :=
  { opening with source := .engine layout, script := .nothing }

theorem Opening.connect_inProcess (layout : TagLayout) (opening : Opening) :
    (opening.inProcess layout).connect =
      Connection.openDatabase (Api.ofTable (Backend.unscripted layout) layout) opening.address
        opening.options :=
  rfl

theorem Api.agrees_ofTable {σ : Type} {related : σ → σ → Prop} {table other : FunctionTable σ}
    (agree : FunctionTable.Agrees related left right table other) :
    Agrees related left right (ofTable table left) (ofTable other right) :=
  ⟨agree, rfl, rfl, rfl⟩

namespace Session

theorem agree_openNamed (name : String) (opening : Opening) :
    Agree (Agrees left right) (Observation.Agrees left right)
      (openNamed name (opening.inProcess left)) (openNamed name (opening.inProcess right)) := by
  refine agree_get.bind ?_
  intro session another start
  have found := start.connections.find? name
  generalize Named.find? session.connections name = first at found ⊢
  generalize Named.find? another.connections name = second at found ⊢
  rw [Opening.connect_inProcess, Opening.connect_inProcess]
  have connecting := agree_call (Connection.agree_openDatabase
    (Api.agrees_ofTable (Backend.agree_unscripted left right)) opening.address opening.options)
  rcases found with replaced | _
  -- The same opening follows, whether or not a database was closed first.
  on_goal 1 => refine (agree_closeNamed name replaced).bind fun _ _ _ => ?_
  all_goals
    refine connecting.bind ?_
    intro outcome other answers
    cases answers with
    | error failure => exact agree_same _
    | ok agree =>
        refine (agree_modify fun state second same => ?_).bind_eq fun _ => ?_
        · exact ⟨same.backend, same.connections.put name agree, same.results, same.statements⟩
        · rw [agree.api.first, agree.api.second]
          exact agree_pure .layout

/-! ## Results -/

section Results

variable {result other : ResultSet Backend}

theorem head_eq (agree : ResultSet.Agrees (Backend.Agrees left right) left right result other) :
    head result = head other := by
  unfold head ResultSet.name ResultSet.columnCount ResultSet.rowCount ResultSet.nativeRows
  rw [agree.native, agree.maxRows]

theorem agree_keepResult (name owner : String)
    (agree : ResultSet.Agrees (Backend.Agrees left right) left right result other) :
    Agree (Agrees left right) Eq (keepResult name owner result)
      (keepResult name owner other) := by
  refine agree_get.bind ?_
  intro session another start
  have found := start.results.find? name
  refine (agree_modify fun state second same => ?_).bind_eq fun _ => ?_
  · exact ⟨same.backend, same.connections, same.results.put name ⟨rfl, agree⟩, same.statements⟩
  · generalize Named.find? session.results name = first at found ⊢
    generalize Named.find? another.results name = second at found ⊢
    cases found with
    | none => exact agree_pure rfl
    | some replaced => exact agree_ignore (ResultSet.agree_close replaced.thing)

theorem agree_answerOutcome (owner : String) (keep : Option String)
    {outcome second : Except Error (Outcome Backend)}
    (outcomes : Except.Agree (Outcome.Agrees (Backend.Agrees left right) left right) outcome
      second) :
    Agree (Agrees left right) (Observation.Agrees left right) (answerOutcome owner keep outcome)
      (answerOutcome owner keep second) := by
  cases outcomes with
  | error failure => exact agree_same _
  | ok produced =>
      cases produced with
      | updated count => exact agree_same _
      | rows agree =>
          cases keep with
          | some name =>
              refine (agree_keepResult name owner agree).bind_eq fun _ => ?_
              rw [head_eq agree]
              exact agree_same _
          | none =>
              refine (agree_call (ResultSet.agree_fetchAll agree)).bind ?_
              intro data _ same
              refine (agree_ignore (ResultSet.agree_close agree)).bind_eq fun _ => ?_
              rw [head_eq agree, same.eq]
              exact agree_same _

end Results

section Kept

variable {kept other : Owned (ResultSet Backend)}

theorem agree_fetchNamed (name : String)
    (agree : Owned.Agrees (ResultSet.Agrees (Backend.Agrees left right) left right) kept other) :
    Agree (Agrees left right) (Observation.Agrees left right) (fetchNamed name kept)
      (fetchNamed name other) := by
  have marked : ResultSet.Agrees (Backend.Agrees left right) left right kept.thing.markFetched
      other.thing.markFetched :=
    ⟨agree.thing.connection, agree.thing.native, agree.thing.maxRows, rfl⟩
  refine (agree_modify fun state second same => ?_).bind_eq fun _ => ?_
  · exact ⟨same.backend, same.connections, same.results.put name ⟨agree.owner, marked⟩,
      same.statements⟩
  · exact agree_respond (ResultSet.agree_fetchAll agree.thing) _

theorem agree_closeResultNamed (name : String)
    (agree : Owned.Agrees (ResultSet.Agrees (Backend.Agrees left right) left right) kept other) :
    Agree (Agrees left right) (Observation.Agrees left right) (closeResultNamed name kept)
      (closeResultNamed name other) := by
  refine (agree_modify fun state second same => ?_).bind_eq fun _ => ?_
  · exact ⟨same.backend, same.connections, same.results.remove name, same.statements⟩
  · exact agree_respond (ResultSet.agree_close agree.thing) _

end Kept

/-! ## Statements -/

theorem agree_prepareNamed (owner : String) {sql : String} (portable : PortableText sql)
    (name : String) {connection second : Connection Backend}
    (agree : Connection.Agrees (Backend.Agrees left right) left right connection second) :
    Agree (Agrees left right) (Observation.Agrees left right)
      (prepareNamed owner sql name connection) (prepareNamed owner sql name second) := by
  refine (agree_call (Connection.agree_prepare agree portable)).bind ?_
  intro outcome other answers
  cases answers with
  | error failure => exact agree_same _
  | @ok statement kept prepared =>
      refine agree_get.bind ?_
      intro session another start
      have found := start.statements.find? name
      refine (agree_modify fun state later same => ?_).bind_eq fun _ => ?_
      · exact ⟨same.backend, same.connections, same.results,
          same.statements.put name ⟨rfl, prepared⟩⟩
      · dsimp only
        rw [prepared.types, prepared.metadata]
        generalize Named.find? session.statements name = first at found ⊢
        generalize Named.find? another.statements name = next at found ⊢
        cases found with
        | none => exact agree_same _
        | some replaced =>
            refine (agree_ignore (PreparedStatement.agree_release replaced.thing)).bind_eq ?_
            exact fun _ => agree_same _

/-- However a parameter is bound, the outcome is the same. -/
theorem agree_update {σ : Type} {related : σ → σ → Prop} {statement other : PreparedStatement σ}
    (agree : statement.Agrees related left right other) (binding : Binding) (index : Nat) :
    Agree related (PreparedStatement.Changed related left right) (binding.update index statement)
      (binding.update index other) := by
  cases binding with
  | value given => exact PreparedStatement.agree_bind agree index given
  | null => exact PreparedStatement.agree_bindNull agree index
  | blob | date | time | timestamp => exact PreparedStatement.agree_bindAs agree _ index _

theorem agree_bindNamed (name : String) (index : Nat) (binding : Binding)
    {kept other : Owned (PreparedStatement Backend)}
    (agree : Owned.Agrees (PreparedStatement.Agrees (Backend.Agrees left right) left right) kept
      other) :
    Agree (Agrees left right) (Observation.Agrees left right) (bindNamed name index binding kept)
      (bindNamed name index binding other) := by
  intro session another start
  obtain ⟨⟨outcomes, bound⟩, final⟩ :=
    agree_update agree.thing binding index session.backend another.backend start.backend
  refine ⟨?_, final, start.connections, start.results,
    start.statements.put name ⟨agree.owner, bound⟩⟩
  show Observation.Agrees left right
    (.outcome ((fun _ => .nothing) <$> (binding.update index kept.thing session.backend).1.1))
    (.outcome ((fun _ => .nothing) <$> (binding.update index other.thing another.backend).1.1))
  rw [outcomes]
  exact .same _

/-! ## Other steps -/

theorem agree_nullOf {connection second : Connection Backend}
    (agree : Connection.Agrees (Backend.Agrees left right) left right connection second)
    {type : ColumnType} (portable : type.Portable) :
    Call.Agree (Backend.Agrees left right) Eq (nullOf connection type) (nullOf second type) := by
  refine (Api.agree_openDatabase agree.api none none).bind_eq fun handle => ?_
  have closing := Api.agree_closeDatabase agree.api handle
  refine (Call.Agree.tryCatch (Api.agree_nullValue agree.api handle portable)
    fun error => Api.agree_abandon closing error).bind_eq fun datum => ?_
  exact (Api.agree_attempt closing).bind_eq fun _ => Call.agree_pure rfl

theorem agree_openAndClose (address : Option String) (options : Option NativeOptions) :
    Call.Agree (Backend.Agrees left right) Eq (openAndClose left address options)
      (openAndClose right address options) := by
  have agree := Api.agrees_ofTable (Backend.agree_engineTable left right)
  refine Api.agree_settle_bind fun url _ => ?_
  refine (Api.agree_openDatabase agree url options).bind_eq fun handle => ?_
  exact Api.agree_closeDatabase agree handle

theorem agree_verdict {sql : String} (portable : PortableText sql)
    {connection second : Connection Backend}
    (agree : Connection.Agrees (Backend.Agrees left right) left right connection second) :
    Agree (Agrees left right) (Observation.Agrees left right) (verdict connection sql)
      (verdict second sql) := by
  refine (agree_call (Connection.agree_query agree portable ⟨false, 0⟩)).bind ?_
  intro outcome other answers
  cases answers with
  | error failure => exact agree_same _
  | ok produced =>
      cases produced with
      | updated count => exact agree_same _
      | rows result =>
          exact (agree_ignore (ResultSet.agree_close result)).bind_eq fun _ => agree_same _

end Session

/-! ## Steps -/

namespace Step

/-- The same step, over the engine with a layout. -/
def inProcess (layout : TagLayout) : Step → Step
  | .openDatabase name opening => .openDatabase name (opening.inProcess layout)
  | .openClose _ address options => .openClose layout address options
  | .probe _ asked => .probe layout asked
  | step => step

/-- No text of the step makes a column that is not portable, and no type that is not portable is
asked for. Probes are not steps of a client: they look at the engine behind it. -/
def Portable : Step → Prop
  | .query _ sql _ _ | .prepare _ sql _ | .isNative _ sql => PortableText sql
  | .nullValue _ type => type.Portable
  | .probe .. => False
  | _ => True

instance : (step : Step) → Decidable step.Portable
  | .query _ sql _ _ | .prepare _ sql _ | .isNative _ sql =>
      inferInstanceAs (Decidable (PortableText sql))
  | .nullValue _ type => inferInstanceAs (Decidable type.Portable)
  | .probe .. => isFalse id
  | .openDatabase .. | .close .. | .result .. | .fetch .. | .closeResult .. | .bind ..
  | .execute .. | .dropStatement .. | .autocommit .. | .setAutocommit .. | .lastError ..
  | .counters | .describe .. | .nullHandle .. | .openClose .. => isTrue trivial

end Step

namespace Session

/-- A step that is portable. -/
theorem agree_step {step : Step} (portable : step.Portable) :
    Agree (Agrees left right) (Observation.Agrees left right)
      (Session.step (step.inProcess left)) (Session.step (step.inProcess right)) := by
  cases step with
  | openDatabase name opening => exact agree_openNamed name opening
  | close name =>
      apply agree_onConnection name
      intro connection second agree
      refine (agree_closeNamed name agree).bind ?_
      intro outcome _ answers
      rw [answers.eq]
      exact agree_same _
  | query name sql options keep =>
      apply agree_onConnection name
      intro connection second agree
      refine (agree_call (Connection.agree_query agree portable options)).bind ?_
      exact fun _ _ outcomes => agree_answerOutcome name keep outcomes
  | result name =>
      apply agree_onResult name
      intro kept second agree
      rw [head_eq agree.thing]
      exact agree_same _
  | fetch name => exact agree_onResult name fun _ _ agree => agree_fetchNamed name agree
  | closeResult name => exact agree_onResult name fun _ _ agree => agree_closeResultNamed name agree
  | prepare name sql keep =>
      exact agree_onConnection name fun _ _ agree => agree_prepareNamed name portable keep agree
  | bind name index binding =>
      exact agree_onStatement name fun _ _ agree => agree_bindNamed name index binding agree
  | execute name options keep =>
      apply agree_onStatement name
      intro kept second agree
      rw [agree.owner]
      refine (agree_call (PreparedStatement.agree_execute agree.thing options)).bind ?_
      exact fun _ _ outcomes => agree_answerOutcome _ keep outcomes
  | dropStatement name =>
      apply agree_onStatement name
      intro kept second agree
      refine (agree_modify fun state other same => ?_).bind_eq fun _ => ?_
      · exact ⟨same.backend, same.connections, same.results, same.statements.remove name⟩
      · refine (agree_ignore (PreparedStatement.agree_release agree.thing)).bind_eq ?_
        exact fun _ => agree_same _
  | autocommit name =>
      exact agree_onConnection name fun _ _ agree =>
        agree_respond (Connection.agree_autocommit agree) _
  | setAutocommit name enabled =>
      exact agree_onConnection name fun _ _ agree =>
        agree_respond (Connection.agree_setAutocommit agree enabled) _
  | lastError name =>
      exact agree_onConnection name fun _ _ agree =>
        agree_direct (Connection.agree_lastError agree) _
  | counters =>
      intro session other start
      refine ⟨?_, start⟩
      show Observation.Agrees left right
        (.outcome (.ok (.counters session.backend.engine.counters)))
        (.outcome (.ok (.counters other.backend.engine.counters)))
      rw [start.backend.engine.counters]
      exact .same _
  | describe name result statement =>
      apply agree_onConnection name
      intro connection second agree
      refine agree_get.bind ?_
      intro session other start
      rw [(start.results.find? result).map_eq fun _ _ agree => agree.thing.description_eq,
        (start.statements.find? statement).map_eq fun _ _ agree => agree.thing.description_eq]
      exact agree_pure (.description _ _ agree.api.first agree.api.second agree.api.path)
  | isNative name sql =>
      exact agree_onConnection name fun _ _ agree => agree_verdict portable agree
  | nullHandle name =>
      exact agree_onConnection name fun _ _ agree => agree_direct (agree.api.table.lastError none) _
  | nullValue name type =>
      exact agree_onConnection name fun _ _ agree => agree_respond (agree_nullOf agree portable) _
  | openClose layout address options => exact agree_respond (agree_openAndClose address options) _
  | probe layout probe => exact portable.elim

/-- Releasing everything at the end. -/
theorem agree_finish : Agree (Agrees left right) Eq finish finish := by
  refine (agree_dropResults fun _ _ _ => rfl).bind_eq fun _ => ?_
  refine (agree_dropStatements fun _ _ _ => rfl).bind_eq fun _ => ?_
  refine agree_get.bind ?_
  intro session other start
  refine Agree.forM start.connections ?_
  rintro entry second ⟨_, agree⟩
  exact agree_ignore (Connection.agree_close agree)

/-- **The same portable steps over engines of two layouts show the same**, step by step, and in
the end the same objects were made and released. -/
theorem run_agrees (left right : TagLayout) (steps : List Step)
    (portable : ∀ step ∈ steps, step.Portable) :
    List.Forall₂ (Observation.Agrees left right) (run (steps.map (Step.inProcess left))).1
        (run (steps.map (Step.inProcess right))).1 ∧
      (run (steps.map (Step.inProcess left))).2 = (run (steps.map (Step.inProcess right))).2 := by
  have pairs : List.Forall₂
      (fun step other => ∃ common : Step, common.Portable ∧ step = common.inProcess left ∧
        other = common.inProcess right)
      (steps.map (Step.inProcess left)) (steps.map (Step.inProcess right)) := by
    rw [List.forall₂_map_left_iff, List.forall₂_map_right_iff]
    exact List.forall₂_same.2 fun step member => ⟨step, portable step member, rfl, rfl⟩
  have each (step other : Step) (common : ∃ common : Step, common.Portable ∧
      step = common.inProcess left ∧ other = common.inProcess right) :
      Agree (Agrees left right) (Observation.Agrees left right) (Session.step step)
        (Session.step other) := by
    obtain ⟨common, portable, rfl, rfl⟩ := common
    exact agree_step portable
  obtain ⟨answers, middle⟩ := Agree.mapM pairs each empty empty (agrees_empty left right)
  refine ⟨answers, ?_⟩
  exact (agree_finish _ _ middle).2.backend.engine.counters

/-- Steps with types whose tags the two layouts number differently, and one that fails. -/
def shifted : List Step :=
  [.openDatabase "db" ⟨.engine ⟨true⟩, none, Options.default, .nothing⟩,
    .query "db" "CREATE TABLE t (a VARCHAR(8), b DATE, c DECIMAL(18, 2))" ⟨false, 0⟩ none,
    .prepare "db" "INSERT INTO t VALUES (?, ?, ?)" "insertion",
    .bind "insertion" 1 (.value (.str "x")),
    .bind "insertion" 2 .null,
    .bind "insertion" 3 (.value (.decimal ⟨125, 2⟩)),
    .execute "insertion" ⟨false, 0⟩ none,
    .query "db" "SELECT * FROM t" ⟨false, 0⟩ (some "rows"),
    .fetch "rows",
    .query "db" "DROP TABLE u" ⟨false, 0⟩ none,
    .lastError "db"]

/-- They are portable, and the result and the description they lead to are fetched. -/
theorem run_agrees_shifted :
    (∀ step ∈ shifted, step.Portable) ∧
      (run (shifted.map (Step.inProcess ⟨true⟩))).2 = ⟨0, 0, 0, 10⟩ ∧
      List.Forall₂ (Observation.Agrees ⟨true⟩ ⟨false⟩)
        (run (shifted.map (Step.inProcess ⟨true⟩))).1
        (run (shifted.map (Step.inProcess ⟨false⟩))).1 ∧
      (run (shifted.map (Step.inProcess ⟨true⟩))).2 =
        (run (shifted.map (Step.inProcess ⟨false⟩))).2 :=
  ⟨by decide +kernel, by decide +kernel,
    run_agrees ⟨true⟩ ⟨false⟩ shifted (by decide +kernel)⟩

end Session

end ColumnStore
