import ColumnStore.Client.Statement
import ColumnStore.Proofs.Except
import ColumnStore.Proofs.Text.Utf8

/-!
# Calls that succeed

What a call of the client went through when it succeeds: each of its steps succeeded, in the
state that the steps before left. The columns of a result are gathered by one call after the
other, so an invariant that each of these calls keeps carries the whole gathering
(`Columns.gather_ok`).
-/

set_option autoImplicit false

namespace ColumnStore

variable {σ α β : Type}

namespace Call

/-- A step that succeeds hands its answer and the state to the next. -/
theorem bind_of_ok {first : Call σ α} {next : α → Call σ β} {state middle : σ} {answer : α}
    (succeeded : first state = (.ok answer, middle)) :
    (first >>= next) state = next answer middle := by
  simp only [bind, ExceptT.bind, ExceptT.mk, StateT.bind, succeeded, ExceptT.bindCont]

theorem bind_of_error {first : Call σ α} {next : α → Call σ β} {state middle : σ} {error : Error}
    (failed : first state = (.error error, middle)) :
    (first >>= next) state = (.error error, middle) := by
  simp only [bind, ExceptT.bind, ExceptT.mk, StateT.bind, failed, ExceptT.bindCont]
  rfl

/-- What comes next depends on what the first step does in this state alone. -/
theorem bind_congr {first other : Call σ α} {next : α → Call σ β} {state : σ}
    (same : first state = other state) : (first >>= next) state = (other >>= next) state := by
  simp only [bind, ExceptT.bind, ExceptT.mk, StateT.bind, same]

/-- Two steps succeed if both do. -/
theorem bind_eq_ok {first : Call σ α} {next : α → Call σ β} {state final : σ} {answer : β} :
    (first >>= next) state = (.ok answer, final) ↔
      ∃ half middle, first state = (.ok half, middle) ∧ next half middle = (.ok answer, final) := by
  rcases run : first state with ⟨outcome, middle⟩
  cases outcome with
  | ok half =>
      rw [bind_of_ok run]
      constructor
      · exact fun rest => ⟨half, middle, rfl, rest⟩
      · rintro ⟨_, _, same, rest⟩
        cases same
        exact rest
  | error error =>
      rw [bind_of_error run]
      constructor
      · intro same
        cases same
      · rintro ⟨_, _, same, _⟩
        cases same

/-- The call succeeded if it has an answer. -/
theorem eq_of_toOption {run : Except Error α × σ} {answer : α}
    (answered : run.1.toOption = some answer) : run = (.ok answer, run.2) := by
  obtain ⟨outcome, final⟩ := run
  cases outcome with
  | ok given =>
      cases answered
      rfl
  | error error => cases answered

/-- An action that does not fail. -/
theorem lift_eq_ok {action : StateM σ α} {state final : σ} {answer : α} :
    (liftM action : Call σ α) state = (.ok answer, final) ↔ action state = (answer, final) := by
  constructor
  · intro lifted
    cases lifted
    rfl
  · intro run
    have lifted : (liftM action : Call σ α) state = (.ok (action state).1, (action state).2) := rfl
    rw [lifted, run]

/-- Whether the call succeeds or fails, a property of the state is kept. -/
def Keeps (property : σ → Prop) (call : Call σ α) : Prop :=
  ∀ state, property state → property (call state).2

section Keeps

variable {property : σ → Prop}

theorem keeps_pure (answer : α) : Keeps property (pure answer) :=
  fun _ holds => holds

theorem Keeps.bind {first : Call σ α} {next : α → Call σ β} (kept : Keeps property first)
    (each : ∀ answer, Keeps property (next answer)) : Keeps property (first >>= next) := by
  intro state holds
  have after := kept state holds
  rcases run : first state with ⟨outcome, middle⟩
  rw [run] at after
  cases outcome with
  | ok answer =>
      rw [bind_of_ok run]
      exact each answer middle after
  | error error =>
      rw [bind_of_error run]
      exact after

theorem Keeps.mapM {call : α → Call σ β} (each : ∀ element, Keeps property (call element))
    (list : List α) : Keeps property (list.mapM call) := by
  induction list with
  | nil => exact keeps_pure []
  | cons element rest ih =>
      rw [List.mapM_cons]
      exact (each element).bind fun answer => ih.bind fun answers => keeps_pure _

end Keeps

/-- In states with a property the call keeps the property, and its answer, if it has one, is as it
should be. -/
def Ensures (property : σ → Prop) (holds : α → Prop) (call : Call σ α) : Prop :=
  ∀ state, property state →
    property (call state).2 ∧ ∀ answer, (call state).1 = .ok answer → holds answer

section Ensures

variable {property : σ → Prop} {holds : α → Prop} {after : β → Prop}

theorem ensures_pure {answer : α} (known : holds answer) :
    Ensures property holds (pure answer) := by
  intro state kept
  refine ⟨kept, fun other same => ?_⟩
  cases same
  exact known

theorem ensures_throw (error : Error) : Ensures property holds (throw error) :=
  fun _ kept => ⟨kept, nofun⟩

theorem Ensures.bind {first : Call σ α} {next : α → Call σ β}
    (ensures : Ensures property holds first)
    (each : ∀ answer, holds answer → Ensures property after (next answer)) :
    Ensures property after (first >>= next) := by
  intro state kept
  obtain ⟨keeps, known⟩ := ensures state kept
  rcases run : first state with ⟨outcome, middle⟩
  rw [run] at keeps known
  cases outcome with
  | error error =>
      rw [bind_of_error run]
      exact ⟨keeps, nofun⟩
  | ok answer =>
      rw [bind_of_ok run]
      exact each answer (known answer rfl) middle keeps

theorem Ensures.mapM {call : β → Call σ α} (each : ∀ element, Ensures property holds (call element))
    (list : List β) :
    Ensures property (fun answers => ∀ answer ∈ answers, holds answer) (list.mapM call) := by
  induction list with
  | nil => exact ensures_pure fun answer member => absurd member List.not_mem_nil
  | cons element rest ih =>
      rw [List.mapM_cons]
      refine (each element).bind fun answer known => ih.bind fun answers others => ?_
      exact ensures_pure (List.forall_mem_cons.2 ⟨known, others⟩)

end Ensures

end Call

namespace Api

theorem keeps_settle {property : σ → Prop} (outcome : Except Error α) :
    Call.Keeps property (settle outcome) :=
  fun _ holds => holds

theorem keeps_check {property : σ → Prop} {entry : EntryPoint} {reply : StateM σ (Reply α)}
    (kept : ∀ state, property state → property (reply state).2) :
    Call.Keeps property (check entry reply) := by
  intro state holds
  have after := kept state holds
  unfold check
  rcases replied : reply state with ⟨outcome, next⟩
  rw [replied] at after
  cases outcome <;> exact after

theorem ensures_check {property : σ → Prop} {holds : α → Prop} {entry : EntryPoint}
    {reply : StateM σ (Reply α)}
    (kept : ∀ state, property state → property (reply state).2 ∧
      ∀ answer, (reply state).1 = .ok answer → holds answer) :
    Call.Ensures property holds (check entry reply) := by
  intro state start
  obtain ⟨keeps, known⟩ := kept state start
  unfold check
  rcases replied : reply state with ⟨outcome, next⟩
  rw [replied] at keeps known
  cases outcome with
  | error text => exact ⟨keeps, nofun⟩
  | ok answer =>
      refine ⟨keeps, fun other same => ?_⟩
      cases same
      exact known answer rfl

theorem check_of_ok {entry : EntryPoint} {reply : StateM σ (Reply α)} {state next : σ} {answer : α}
    (accepted : reply state = (.ok answer, next)) :
    check entry reply state = (.ok answer, next) := by
  rw [check, accepted]

theorem check_of_error {entry : EntryPoint} {reply : StateM σ (Reply α)} {state next : σ}
    {text : NativeText} (refused : reply state = (.error text, next)) :
    check entry reply state = (.error (.native entry text.toString), next) := by
  rw [check, refused]

/-- Checking an answer changes nothing. -/
theorem check_snd {entry : EntryPoint} {reply : StateM σ (Reply α)} {state : σ} :
    (check entry reply state).2 = (reply state).2 := by
  unfold check
  split <;> next answered => rw [answered]

/-- A checked call succeeds if the entry does. -/
theorem check_eq_ok {entry : EntryPoint} {reply : StateM σ (Reply α)} {state next : σ}
    {answer : α} :
    check entry reply state = (.ok answer, next) ↔ reply state = (.ok answer, next) := by
  refine ⟨fun checked => ?_, check_of_ok⟩
  unfold check at checked
  split at checked
  · next accepted =>
      cases checked
      exact accepted
  · cases checked

/-- A known outcome leaves the state alone. -/
theorem settle_eq_ok {outcome : Except Error α} {state final : σ} {answer : α} :
    settle outcome state = (.ok answer, final) ↔ outcome = .ok answer ∧ state = final := by
  constructor
  · intro settled
    cases settled
    exact ⟨rfl, rfl⟩
  · rintro ⟨rfl, rfl⟩
    rfl

end Api

/-- A call that would give up after a failure succeeds if it does without. -/
theorem Call.tryCatch_eq_ok {σ α β : Type} {call : Call σ α} {after : Call σ β}
    {state final : σ} {answer : α}
    (succeeded : tryCatch call (Api.abandon after) state = (.ok answer, final)) :
    call state = (.ok answer, final) := by
  rcases run : call state with ⟨outcome, middle⟩
  simp only [tryCatch, tryCatchThe, MonadExceptOf.tryCatch, ExceptT.tryCatch, ExceptT.mk, bind,
    StateT.bind, run] at succeeded
  cases outcome with
  | ok answer => exact succeeded
  | error error =>
      have failed : Api.abandon (β := α) after error middle =
          (.error error, (after middle).2) := rfl
      cases failed.symm.trans succeeded

/-- Nothing is given up where nothing fails. -/
theorem Call.tryCatch_of_ok {call : Call σ α} {after : Error → Call σ α} {state final : σ}
    {answer : α} (succeeded : call state = (.ok answer, final)) :
    tryCatch call after state = (.ok answer, final) := by
  simp only [tryCatch, tryCatchThe, MonadExceptOf.tryCatch, ExceptT.tryCatch, ExceptT.mk, bind,
    StateT.bind, succeeded]
  rfl

/-- The library reads the text that it is handed. -/
theorem Connection.toString_of_terminated {text : String} {sent : NativeText}
    (handed : terminated text = .ok sent) : sent.toString = text := by
  unfold terminated at handed
  split at handed
  · next accepted =>
      cases handed
      exact NativeText.toString_of_ofString? accepted
  · cases handed

namespace PreparedStatement

variable {connection : Connection σ} {description : LiveResult} {state middle : σ}
  {outcome : Except Error Metadata}

/-- A description is not released if reading it stops the program. -/
theorem describe_of_overflow
    (stopped : connection.api.metadata description state = (.error .overflow, middle)) :
    describe connection description state = (.error .overflow, middle) := by
  rw [describe, stopped]

/-- Otherwise it is released, and what was read counts if that succeeds. -/
theorem describe_of_read (read : connection.api.metadata description state = (outcome, middle))
    (runs : outcome ≠ .error .overflow) :
    describe connection description state =
      let released := connection.api.cleanupResult connection.handle description.handle middle
      (released.1 >>= fun _ => outcome, released.2) := by
  rw [describe, read]
  split
  · next same =>
      cases same
      exact absurd rfl runs
  · next same =>
      cases same
      rcases connection.api.cleanupResult connection.handle description.handle middle with
        ⟨_ | _, _⟩ <;> rfl

end PreparedStatement

namespace Columns

/-- Calls for one column after the other succeed if each succeeds in the state that the
earlier ones leave. -/
theorem mapM_range'_ok {call : Nat → Call σ Column} (invariant : Nat → σ → Prop)
    (holds : Nat → Column → Prop) (count start : Nat)
    (each : ∀ index, index < start + count → ∀ state, invariant index state →
      ∃ column next, call index state = (.ok column, next) ∧ holds index column ∧
        invariant (index + 1) next)
    {state : σ} (before : invariant start state) :
    ∃ columns final, (List.range' start count).mapM call state = (.ok columns, final) ∧
      columns.length = count ∧
      (∀ index column, columns[index]? = some column → holds (start + index) column) ∧
      invariant (start + count) final := by
  induction count generalizing start state with
  | zero => exact ⟨[], state, rfl, rfl, by simp, before⟩
  | succ count ih =>
      obtain ⟨column, next, one, known, after⟩ := each start (by omega) state before
      obtain ⟨columns, final, many, length, others, done⟩ :=
        ih (start + 1) (fun index inside => each index (by omega)) after
      refine ⟨column :: columns, final, ?_, by simp [length], ?_, ?_⟩
      · rw [List.range'_succ, List.mapM_cons, Call.bind_of_ok one, Call.bind_of_ok many]
        rfl
      · intro index other found
        cases index with
        | zero =>
            cases found
            exact known
        | succ index =>
            have there := others index other found
            rwa [show start + 1 + index = start + (index + 1) by omega] at there
      · rwa [show start + 1 + count = start + (count + 1) by omega] at done

/-- **Gathering succeeds if every column can be fetched when its turn comes.** -/
theorem gather_ok {call : Nat → Call σ Column} (invariant : Nat → σ → Prop)
    (holds : Nat → Column → Prop) {count : Nat} (rowCount : Nat)
    (each : ∀ index, index < count → ∀ state, invariant index state →
      ∃ column next, call index state = (.ok column, next) ∧ holds index column ∧
        invariant (index + 1) next)
    {state : σ} (before : invariant 0 state) :
    ∃ columns final, gather count rowCount call state = (.ok ⟨columns, rowCount⟩, final) ∧
      columns.length = count ∧
      (∀ index column, columns[index]? = some column → holds index column) ∧
      invariant count final := by
  obtain ⟨columns, final, gathered, length, known, done⟩ :=
    mapM_range'_ok invariant holds count 0 (fun index inside => each index (by omega)) before
  refine ⟨columns, final, ?_, length, ?_, ?_⟩
  · rw [gather, List.range_eq_range', Call.bind_of_ok gathered]
    rfl
  · intro index column found
    simpa using known index column found
  · simpa using done

/-- Gathering keeps what the calls for the columns keep, and its columns are as theirs. -/
theorem ensures_gather {property : σ → Prop} {holds : Column → Prop} {call : Nat → Call σ Column}
    (each : ∀ index, Call.Ensures property holds (call index)) (count rowCount : Nat) :
    Call.Ensures property
      (fun columns => columns.rowCount = rowCount ∧ ∀ column ∈ columns.columns, holds column)
      (gather count rowCount call) :=
  (Call.Ensures.mapM each (List.range count)).bind fun _ known => Call.ensures_pure ⟨rfl, known⟩

/-- **Gathering ends with the first column that fails**, in the state that this column leaves. -/
theorem gather_of_failure {call : Nat → Call σ Column} (invariant : Nat → σ → Prop)
    {after : σ → Prop} {count index : Nat} {error : Error} (inside : index < count) (rowCount : Nat)
    (each : ∀ earlier, earlier < index → ∀ state, invariant earlier state →
      ∃ column next, call earlier state = (.ok column, next) ∧ invariant (earlier + 1) next)
    (fails : ∀ state, invariant index state →
      ∃ next, call index state = (.error error, next) ∧ after next)
    {state : σ} (before : invariant 0 state) :
    ∃ final, gather count rowCount call state = (.error error, final) ∧ after final := by
  obtain ⟨columns, middle, gathered, _, _, reached⟩ :=
    mapM_range'_ok invariant (fun _ _ => True) index 0 (fun earlier less state holds => by
      obtain ⟨column, next, one, kept⟩ := each earlier (by omega) state holds
      exact ⟨column, next, one, trivial, kept⟩) before
  obtain ⟨final, failed, done⟩ := fails middle (by simpa using reached)
  have parts : List.range count =
      List.range' 0 index ++ index :: List.range' (index + 1) (count - (index + 1)) := by
    obtain ⟨rest, rfl⟩ : ∃ rest, count = index + (rest + 1) := ⟨count - (index + 1), by omega⟩
    rw [show index + (rest + 1) - (index + 1) = rest by omega, ← List.range'_succ,
      List.range_eq_range', ← List.range'_append_1, Nat.zero_add]
  refine ⟨final, ?_, done⟩
  have stopped : (List.range count).mapM call state = (.error error, final) := by
    rw [parts, List.mapM_append, Call.bind_of_ok gathered, List.mapM_cons]
    exact Call.bind_of_error (Call.bind_of_error failed)
  rw [gather]
  exact Call.bind_of_error stopped

end Columns

/-! ## What a statement is answered with -/

/-- A result with columns is handed on as rows. -/
theorem Outcome.ofExecuted_of_columns {connection : Connection σ} {native : LiveResult}
    {affected : Int} {options : QueryOptions} {state : σ}
    (columns : 0 < native.header.columnCount) :
    ofExecuted connection ⟨some native, affected⟩ options state =
      (.ok (.rows ⟨connection, native, options.maxRows, false⟩), state) := by
  have shown : 0 < (ResultSet.mk connection native options.maxRows false).columnCount := columns
  unfold ofExecuted
  dsimp only
  rw [if_pos shown]
  rfl

/-- Only a result with columns is handed on as rows. -/
theorem Outcome.ofExecuted_rows {connection : Connection σ} {executed : Executed}
    {options : QueryOptions} {result : ResultSet σ} {start final : σ}
    (handed : ofExecuted connection executed options start = (.ok (.rows result), final)) :
    executed.result = some result.native ∧ 0 < result.columnCount ∧
      result.connection = connection ∧ final = start := by
  have counted {state : σ} (settled : Api.settle
      (Outcome.updated <$> UpdateCount.ofAffected executed.affected options) state =
        (.ok (Outcome.rows result), final)) : False := by
    obtain ⟨whole, _⟩ := Api.settle_eq_ok.1 settled
    obtain ⟨count, _, other⟩ := Except.map_eq_ok.1 whole
    cases other
  unfold ofExecuted at handed
  cases stored : executed.result with
  | none =>
      rw [stored] at handed
      exact (counted handed).elim
  | some native =>
      rw [stored] at handed
      dsimp only at handed
      split at handed
      · next columns =>
          cases handed
          exact ⟨rfl, columns, rfl, rfl⟩
      · obtain ⟨_, state, _, settled⟩ := Call.bind_eq_ok.1 handed
        exact (counted settled).elim

namespace PreparedStatement

variable (statement : PreparedStatement σ) (index : Nat)
  (datum : PreparedStatement σ → Nat → Call σ NativeDatum) (state : σ)

/-- Binding changes the slots of a statement and nothing else of it. -/
theorem slots_bindWith :
    ∃ slots, (bindWith index datum statement state).1.2 = { statement with slots } := by
  unfold bindWith
  split
  · exact ⟨_, rfl⟩
  · split <;> exact ⟨_, rfl⟩

/-- Binding is done on the connection of the statement. -/
theorem connection_bindWith :
    (bindWith index datum statement state).1.2.connection = statement.connection := by
  obtain ⟨slots, same⟩ := slots_bindWith statement index datum state
  rw [same]

theorem handle_bindWith : (bindWith index datum statement state).1.2.handle = statement.handle := by
  obtain ⟨slots, same⟩ := slots_bindWith statement index datum state
  rw [same]

end PreparedStatement

end ColumnStore
