import ColumnStore.Client.ResultSet
import ColumnStore.Proofs.Native.FunctionTable

/-!
# Clients of two layouts

A client that works over two libraries that agree, each with the layout of its own, cannot tell
them apart: every call answers the same and fails in the same way. Type tags never get past the
client: columns and parameters have types, which the tags of both layouts name.

Main results: `Connection.agree_openDatabase`, `Connection.agree_query` and
`ResultSet.agree_fetchAll`.
-/

set_option autoImplicit false

namespace ColumnStore

variable {σ : Type} {related : σ → σ → Prop} {left right : TagLayout}

/-! ## Checked calls -/

/-- Two libraries that agree, with the two layouts. -/
structure Api.Agrees (related : σ → σ → Prop) (left right : TagLayout) (api other : Api σ) :
    Prop where
  table : FunctionTable.Agrees related left right api.table other.table
  first : api.layout = left
  second : other.layout = right
  path : api.path = other.path

namespace Api

/-- Materializing a column rewrites it with the cells of the pass. -/
theorem materialize_eq (api : Api σ) (result : Handle .result) (index : Nat) (state : σ) :
    api.materialize result index state =
      match api.table.rewrite
          (fun live => (live.descriptor.materialize api.layout index).2.cells) (some result) index
          state with
      | (.ok (some live), next) => ((live.descriptor.materialize api.layout index).1, next)
      | (.ok none, next) =>
          (.error (.native .resultFetch "no column descriptor returned"), next)
      | (.error text, next) => (.error (.native .resultFetch text.toString), next) := by
  rcases fetched : api.table.resultFetch (some result) index state with ⟨reply, next⟩
  rcases reply with text | _ | live
  · have failed : api.resultFetch result index state =
        (.error (.native .resultFetch text.toString), next) := by
      rw [Api.resultFetch, Call.bind_of_error (by rw [check, fetched])]
    rw [FunctionTable.rewrite_of_error fetched, materialize, Call.bind_of_error failed]
  · have failed : api.resultFetch result index state =
        (.error (.native .resultFetch "no column descriptor returned"), next) := by
      rw [Api.resultFetch, Call.bind_of_ok (check_of_ok fetched)]
      rfl
    rw [FunctionTable.rewrite_of_none fetched, materialize, Call.bind_of_error failed]
  · have handed : api.resultFetch result index state = (.ok live, next) := by
      rw [Api.resultFetch, Call.bind_of_ok (check_of_ok fetched)]
      rfl
    rw [FunctionTable.rewrite_of_column fetched, materialize, Call.bind_of_ok handed]
    rfl

section Calls

variable {api other : Api σ}

theorem agree_lastError (agree : Agrees related left right api other)
    (database : Handle .database) :
    Agree related Eq (api.lastError database) (other.lastError database) :=
  (agree.table.lastError _).bind_eq fun _ => agree_pure rfl

theorem agree_closeDatabase (agree : Agrees related left right api other)
    (database : Handle .database) :
    Call.Agree related Eq (api.closeDatabase database) (other.closeDatabase database) := by
  refine (Call.agree_lift (agree.table.closeDatabase _)).bind_eq fun code => ?_
  split
  · refine (Call.agree_lift (agree_lastError agree database)).bind_eq fun reported => ?_
    exact Call.agree_throw _
  · exact Call.agree_pure rfl

theorem agree_openDatabase (agree : Agrees related left right api other)
    (url : Option NativeText) (options : Option NativeOptions) :
    Call.Agree related Eq (api.openDatabase url options) (other.openDatabase url options) := by
  refine (Call.agree_lift (agree.table.openDatabase url options)).bind_eq fun answer => ?_
  obtain ⟨code, stored⟩ := answer
  dsimp only
  split
  · exact agree_require_eq _ _ stored
  · cases stored with
    | none => exact Call.agree_throw _
    | some database =>
        refine (Call.agree_lift (agree_lastError agree database)).bind_eq fun reported => ?_
        exact agree_abandon (agree_closeDatabase agree database) _

theorem agree_autocommit (agree : Agrees related left right api other)
    (database : Handle .database) :
    Call.Agree related Eq (api.autocommit database) (other.autocommit database) :=
  (agree_check (agree.table.getAutocommit _)).bind_eq fun _ => Call.agree_pure rfl

theorem agree_setAutocommit (agree : Agrees related left right api other)
    (database : Handle .database) (enabled : Bool) :
    Call.Agree related Eq (api.setAutocommit database enabled)
      (other.setAutocommit database enabled) :=
  agree_check (agree.table.setAutocommit _ _)

theorem agree_query (agree : Agrees related left right api other) (database : Handle .database)
    {text : NativeText} (portable : PortableText text.toString) :
    Call.Agree related Eq (api.query database text) (other.query database text) :=
  agree_check (agree.table.query _ _ portable)

/-- Materializing a column makes the same column. -/
theorem agree_materialize (agree : Agrees related left right api other)
    (result : Handle .result) (index : Nat) :
    Call.Agree related Eq (api.materialize result index) (other.materialize result index) := by
  intro state second start
  obtain ⟨table, rfl, rfl, _⟩ := agree
  have both := table.rewrite (some result) index
    (fun live => (live.descriptor.materialize api.layout index).2.cells)
    (fun live => (live.descriptor.materialize other.layout index).2.cells)
    (fun live another same => (same.descriptor.materialize index).2) state second start
  show Except.Agree Eq (api.materialize result index state).1
      (other.materialize result index second).1 ∧
    related (api.materialize result index state).2 (other.materialize result index second).2
  rw [materialize_eq, materialize_eq]
  generalize api.table.rewrite _ (some result) index state = one at both ⊢
  generalize other.table.rewrite _ (some result) index second = two at both ⊢
  obtain ⟨reply, next⟩ := one
  obtain ⟨answer, last⟩ := two
  obtain ⟨answers, final⟩ := both
  cases answers with
  | error text => exact ⟨.error _, final⟩
  | ok handed =>
      cases handed with
      | none => exact ⟨.error _, final⟩
      | some same => exact ⟨.of_eq (same.descriptor.materialize index).1, final⟩

theorem agree_columns (agree : Agrees related left right api other) (result : LiveResult) :
    Call.Agree related Eq (api.columns result) (other.columns result) :=
  (Call.Agree.mapM_eq _ fun index _ => agree_materialize agree result.handle index).bind_eq
    fun _ => Call.agree_pure rfl

theorem agree_cleanupResult (agree : Agrees related left right api other)
    (database : Handle .database) (result : Handle .result) :
    Call.Agree related Eq (api.cleanupResult database result)
      (other.cleanupResult database result) :=
  agree_check (agree.table.cleanupResult _ _)

theorem agree_prepare (agree : Agrees related left right api other) (database : Handle .database)
    {text : NativeText} (portable : PortableText text.toString) :
    Call.Agree related
      (fun answer result => LiveStatement.Agrees left right answer.1 result.1 ∧
        answer.2 = result.2)
      (api.prepare database text) (other.prepare database text) := by
  refine (agree_check (agree.table.prepare _ _ portable)).bind ?_
  intro prepared result same
  refine (agree_require same.statement).bind ?_
  intro statement another handed
  exact Call.agree_pure ⟨handed, same.description⟩

theorem agree_bind (agree : Agrees related left right api other) (statement : Handle .statement)
    (datum : NativeDatum) (index : Nat) :
    Call.Agree related Eq (api.bind statement datum index) (other.bind statement datum index) :=
  agree_check (agree.table.bind _ _ _)

theorem agree_execute (agree : Agrees related left right api other)
    (statement : Handle .statement) :
    Call.Agree related Eq (api.execute statement) (other.execute statement) :=
  agree_check (agree.table.execute _)

theorem agree_cleanupStatement (agree : Agrees related left right api other)
    (database : Handle .database) (statement : Handle .statement) :
    Call.Agree related Eq (api.cleanupStatement database statement)
      (other.cleanupStatement database statement) :=
  agree_check (agree.table.cleanupStatement _ _)

theorem agree_nullValue (agree : Agrees related left right api other)
    (database : Handle .database) {type : ColumnType} (portable : type.Portable) :
    Call.Agree related Eq (api.nullValue database type) (other.nullValue database type) := by
  obtain ⟨table, rfl, rfl, _⟩ := agree
  obtain ⟨tag, one⟩ := TagLayout.exists_encode portable api.layout
  obtain ⟨second, two⟩ := TagLayout.exists_encode portable other.layout
  have encoded : Except.Agree (SameTag api.layout other.layout) (api.layout.encode type)
      (other.layout.encode type) := by
    rw [one, two]
    exact .ok ⟨type, portable, TagLayout.decode?_encode one, TagLayout.decode?_encode two⟩
  refine (agree_settle encoded).bind ?_
  intro tag another same
  have answers : Call.Agree related Eq (ExceptT.mk (api.table.nullValue (some database) tag))
      (ExceptT.mk (other.table.nullValue (some database) another)) :=
    table.nullValue _ _ _ same
  exact answers.bind_eq fun datum => agree_require_eq _ _ _

end Calls

end Api

/-! ## Connections and results -/

/-- The same database behind two libraries that agree. -/
structure Connection.Agrees (related : σ → σ → Prop) (left right : TagLayout)
    (connection other : Connection σ) : Prop where
  api : connection.api.Agrees related left right other.api
  handle : connection.handle = other.handle

/-- The same result of two libraries that agree. -/
structure ResultSet.Agrees (related : σ → σ → Prop) (left right : TagLayout)
    (result other : ResultSet σ) : Prop where
  connection : result.connection.Agrees related left right other.connection
  native : result.native = other.native
  maxRows : result.maxRows = other.maxRows
  fetched : result.fetched = other.fetched

/-- The same product of a statement. -/
inductive Outcome.Agrees (related : σ → σ → Prop) (left right : TagLayout) :
    Outcome σ → Outcome σ → Prop
  | rows {result other : ResultSet σ} (agree : result.Agrees related left right other) :
      Agrees related left right (.rows result) (.rows other)
  | updated (count : UpdateCount) : Agrees related left right (.updated count) (.updated count)

section Results

variable {connection second : Connection σ} {result other : ResultSet σ}

theorem Connection.agree_close (agree : connection.Agrees related left right second) :
    Call.Agree related Eq connection.close second.close := by
  rw [Connection.close, Connection.close, agree.handle]
  exact Api.agree_closeDatabase agree.api _

theorem Connection.agree_lastError (agree : connection.Agrees related left right second) :
    Agree related Eq connection.lastError second.lastError := by
  rw [Connection.lastError, Connection.lastError, agree.handle]
  exact Api.agree_lastError agree.api _

theorem Connection.agree_autocommit (agree : connection.Agrees related left right second) :
    Call.Agree related Eq connection.autocommit second.autocommit := by
  rw [Connection.autocommit, Connection.autocommit, agree.handle]
  exact Api.agree_autocommit agree.api _

theorem Connection.agree_setAutocommit (agree : connection.Agrees related left right second)
    (enabled : Bool) :
    Call.Agree related Eq (connection.setAutocommit enabled) (second.setAutocommit enabled) := by
  rw [Connection.setAutocommit, Connection.setAutocommit, agree.handle]
  exact Api.agree_setAutocommit agree.api _ enabled

/-- Opening a database with the same settings. -/
theorem Connection.agree_openDatabase {api another : Api σ}
    (agree : api.Agrees related left right another) (address : Option String) (options : Options) :
    Call.Agree related (Connection.Agrees related left right)
      (Connection.openDatabase api address options)
      (Connection.openDatabase another address options) := by
  refine Api.agree_settle_bind fun url _ => Api.agree_settle_bind fun native _ => ?_
  refine (Api.agree_openDatabase agree url _).bind_eq fun handle => ?_
  have opened : Connection.Agrees related left right ⟨api, handle⟩ ⟨another, handle⟩ := ⟨agree, rfl⟩
  unfold applySettings
  split
  · exact Call.agree_pure opened
  · refine Call.Agree.tryCatch ?_ fun error => Api.agree_abandon (agree_close opened) error
    exact (agree_setAutocommit opened false).bind_eq fun _ => Call.agree_pure opened

namespace ResultSet

theorem Agrees.columnCount_eq (agree : result.Agrees related left right other) :
    result.columnCount = other.columnCount := by
  rw [columnCount, columnCount, agree.native]

theorem Agrees.nativeRows_eq (agree : result.Agrees related left right other) :
    result.nativeRows = other.nativeRows := by
  rw [nativeRows, nativeRows, agree.native]

theorem Agrees.limit_eq (agree : result.Agrees related left right other) (columns : Columns) :
    result.limit columns = other.limit columns := by
  rw [limit, limit, agree.maxRows, agree.nativeRows_eq]

/-- **Fetching a result makes the same columns.** -/
theorem agree_fetchAll (agree : result.Agrees related left right other) :
    Call.Agree related Eq result.fetchAll other.fetchAll := by
  rw [fetchAll, fetchAll, agree.native]
  refine (Api.agree_columns agree.connection.api _).bind_eq fun columns => ?_
  rw [agree.limit_eq]
  exact Call.agree_pure rfl

theorem agree_close (agree : result.Agrees related left right other) :
    Call.Agree related Eq result.close other.close := by
  rw [close, close, agree.native, agree.connection.handle]
  exact Api.agree_cleanupResult agree.connection.api _ _

end ResultSet

theorem Outcome.agree_ofExecuted (agree : connection.Agrees related left right second)
    (executed : Executed) (options : QueryOptions) :
    Call.Agree related (Outcome.Agrees related left right)
      (Outcome.ofExecuted connection executed options)
      (Outcome.ofExecuted second executed options) := by
  have updated : Call.Agree related (Outcome.Agrees related left right)
      (Api.settle (Outcome.updated <$> UpdateCount.ofAffected executed.affected options))
      (Api.settle (Outcome.updated <$> UpdateCount.ofAffected executed.affected options)) := by
    refine Api.agree_settle ((Except.Agree.of_eq rfl).map fun count _ same => ?_)
    rw [same]
    exact .updated _
  unfold ofExecuted
  cases executed.result with
  | none => exact updated
  | some native =>
      have kept : ResultSet.Agrees related left right ⟨connection, native, options.maxRows, false⟩
          ⟨second, native, options.maxRows, false⟩ := ⟨agree, rfl, rfl, rfl⟩
      dsimp only
      generalize ResultSet.mk connection native options.maxRows false = result at kept ⊢
      generalize ResultSet.mk second native options.maxRows false = other at kept ⊢
      rw [kept.columnCount_eq]
      split
      · exact Call.agree_pure (Outcome.Agrees.rows kept)
      · exact (ResultSet.agree_close kept).bind_eq fun _ => updated

/-- **A portable query answers the same.** -/
theorem Connection.agree_query (agree : connection.Agrees related left right second)
    {text : String} (portable : PortableText text) (options : QueryOptions) :
    Call.Agree related (Outcome.Agrees related left right) (connection.query text options)
      (second.query text options) := by
  refine Api.agree_settle_bind fun sent terminated => ?_
  have spelled : PortableText sent.toString := by
    rwa [Connection.toString_of_terminated terminated]
  rw [agree.handle]
  refine (Api.agree_query agree.api _ spelled).bind_eq fun executed => ?_
  exact Outcome.agree_ofExecuted agree _ options

/-- The result is shown the same. -/
theorem ResultSet.Agrees.description_eq (agree : result.Agrees related left right other) :
    result.description = other.description := by
  unfold description rowCount
  rw [agree.columnCount_eq, agree.nativeRows_eq, agree.maxRows, agree.fetched]

end Results

end ColumnStore
