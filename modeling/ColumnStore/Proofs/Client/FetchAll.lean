import ColumnStore.Client.ResultSet
import ColumnStore.Proofs.Client.Call
import ColumnStore.Proofs.Engine.Results

/-!
# Fetching results

Fetching a result passes over its columns one after the other, and each pass writes to the
cells that the engine keeps. The engine may have been asked for many other things since the
query, and the result may have been fetched before: what matters is that it holds every column
either as it was laid out or as one pass leaves it (`Engine.Holds`). Requests that spare the
result keep this up, and so does fetching, which never fails on columns of the engine
(`ResultSet.fetchAll_of_holds`). A limit on the number of rows cuts the columns off at the end.
-/

set_option autoImplicit false

namespace ColumnStore

/-! ## Columns that are cut off -/

section Truncate

variable {row rows : Nat}

theorem FixedColumn.getElem?_truncate (view : FixedColumn) (inside : row < rows) :
    (view.truncate rows).cells[row]? = view.cells[row]? :=
  List.getElem?_take_of_lt inside

theorem FixedColumn.isNull_truncate (view : FixedColumn) (inside : row < rows) :
    (view.truncate rows).isNull row = view.isNull row := by
  unfold isNull truncate
  cases view.nulls with
  | none => rfl
  | some flags => simp [List.getElem?_take_of_lt inside]

theorem BoxedColumn.getElem?_truncate (copy : BoxedColumn) (inside : row < rows) :
    (copy.truncate rows).rows[row]? = copy.rows[row]? :=
  List.getElem?_take_of_lt inside

theorem BoxedColumn.isNull_truncate (copy : BoxedColumn) (inside : row < rows) :
    (copy.truncate rows).isNull row = copy.isNull row := by
  have there := copy.getElem?_truncate inside
  unfold isNull
  cases found : copy.rows[row]? with
  | none =>
      rw [found] at there
      simp only [there]
  | some content =>
      rw [found] at there
      simp only [there]
      rfl

namespace Column

variable {column : Column} {values : List Value}

theorem length_truncate (column : Column) (rows : Nat) :
    (column.truncate rows).length = min rows column.length := by
  obtain ⟨name, data⟩ := column
  cases data with
  | fixed view => exact List.length_take
  | boxed copy => exact List.length_take

theorem value_truncate {content : Value} (inside : row < rows)
    (found : column.value row = .ok content) : (column.truncate rows).value row = .ok content := by
  obtain ⟨name, data⟩ := column
  cases data with
  | fixed view =>
      simp only [value, truncate, ColumnData.truncate, view.getElem?_truncate inside,
        view.isNull_truncate inside] at found ⊢
      split at found
      · exact found
      · cases found
  | boxed copy =>
      simp only [value, truncate, ColumnData.truncate, copy.getElem?_truncate inside] at found ⊢
      split at found
      · next content there =>
          rw [← found]
          cases content <;> rfl
      · cases found

theorem decimal_truncate {number : Option Decimal} (inside : row < rows)
    (found : column.decimal row = .ok number) :
    (column.truncate rows).decimal row = .ok number := by
  obtain ⟨name, data⟩ := column
  cases data with
  | fixed view =>
      simp only [decimal, truncate, ColumnData.truncate, view.getElem?_truncate inside,
        view.isNull_truncate inside] at found ⊢
      split at found
      · exact found
      · cases found
  | boxed copy => cases found

theorem isNull_truncate {flag : Bool} (inside : row < rows) (found : column.isNull row = .ok flag) :
    (column.truncate rows).isNull row = .ok flag := by
  unfold isNull at found ⊢
  rw [length_truncate]
  split at found
  · next shown =>
      rw [if_pos (by omega), ← found]
      obtain ⟨name, data⟩ := column
      cases data with
      | fixed view =>
          simp only [truncate, ColumnData.truncate, ColumnData.isNull, view.isNull_truncate inside]
      | boxed copy =>
          simp only [truncate, ColumnData.truncate, ColumnData.isNull, copy.isNull_truncate inside]
  · cases found

/-- A column that is cut off has the values of its first rows. -/
theorem Shows.truncate (shows : column.Shows values) (rows : Nat) :
    (column.truncate rows).Shows (values.take rows) := by
  have before {row : Nat} {content : Value} (found : (values.take rows)[row]? = some content) :
      row < rows ∧ values[row]? = some content := by
    rw [List.getElem?_take] at found
    split at found
    · next inside => exact ⟨inside, found⟩
    · cases found
  refine ⟨?_, ?_, ?_⟩
  · rw [length_truncate, shows.length_eq, List.length_take]
  · intro row content found
    exact value_truncate (before found).1 (shows.value_eq row content (before found).2)
  · intro row content found
    exact isNull_truncate (before found).1 (shows.isNull_eq row content (before found).2)

end Column

end Truncate

/-! ## Passes over the columns of a result -/

/-- The library behind a connection is the engine, for the connection's layout. -/
def Connection.InProcess (connection : Connection Engine) : Prop :=
  connection.api.table = Engine.functionTable connection.api.layout

/-- A connection to the database that the engine opened first. -/
def Connection.toFirst (layout : TagLayout) : Connection Engine :=
  ⟨Api.ofTable (Engine.functionTable layout) layout, ⟨.engine, 0⟩⟩

theorem Connection.inProcess_toFirst (layout : TagLayout) : (toFirst layout).InProcess :=
  rfl

/-- Materializing changes nothing but cells. -/
theorem Descriptor.materialize_snd (descriptor : Descriptor) (layout : TagLayout) (index : Nat) :
    { descriptor with cells := (descriptor.materialize layout index).2.cells } =
      (descriptor.materialize layout index).2 := by
  unfold materialize
  rcases layout.decode? descriptor.tag with _ | _ | _ <;> rfl

namespace Engine

/-- The engine keeps a result with columns that were laid out like this. Those from `first` on
are as they were laid out, the earlier ones may have been passed over. -/
def Holds (engine : Engine) (layout : TagLayout) (handle : Handle .result)
    (laid : List Descriptor) (first : Nat) : Prop :=
  ∃ native, engine.result? (some handle) = some native ∧ native.columns.length = laid.length ∧
    ∀ (index : Nat) (current original : Descriptor), native.columns[index]? = some current →
      laid[index]? = some original →
      current = original ∨ index < first ∧ current = original.passed layout

section Holds

variable {engine : Engine} {connection : Connection Engine} {layout : TagLayout}
  {handle : Handle .result} {laid : List Descriptor} {first : Nat}

theorem holds_of_result? {native : NativeResult}
    (kept : engine.result? (some handle) = some native) :
    engine.Holds layout handle native.columns 0 := by
  refine ⟨native, kept, rfl, fun index current original found there => ?_⟩
  rw [found] at there
  cases there
  exact .inl rfl

theorem Holds.perform (holds : engine.Holds layout handle laid first) {request : Request}
    (spares : request.Spares handle) : (request.perform engine).Holds layout handle laid first := by
  obtain ⟨native, kept, same⟩ := holds
  exact ⟨native, result?_perform kept spares, same⟩

/-- What the engine does when a column is materialized, whether or not the pass fails. -/
theorem materialize_of_column (inProcess : connection.InProcess) {native : NativeResult}
    (kept : engine.result? (some handle) = some native) {index : Nat} {current : Descriptor}
    (there : native.columns[index]? = some current) :
    connection.api.materialize handle index engine =
      let pass := current.materialize connection.api.layout index
      (pass.1, engine.countFetch.modifyColumns handle
        (·.modify index fun descriptor => { descriptor with cells := pass.2.cells })) := by
  have handed : connection.api.resultFetch handle index engine =
      (.ok ⟨handle, index, current⟩, engine.countFetch) := by
    have entry : connection.api.table.resultFetch (some handle) index engine =
        (.ok (some ⟨handle, index, current⟩), engine.countFetch) := by
      rw [inProcess]
      exact resultFetch_of_column kept there
    rw [Api.resultFetch, Call.bind_of_ok (Api.check_of_ok entry)]
    rfl
  rw [Api.materialize, Call.bind_of_ok handed, inProcess]
  rfl

theorem materialize_inProcess (inProcess : connection.InProcess) {native : NativeResult}
    (kept : engine.result? (some handle) = some native) {index : Nat} {current zeroed : Descriptor}
    (there : native.columns[index]? = some current) {fetched : Column}
    (pass : current.materialize connection.api.layout index = (.ok fetched, zeroed)) :
    connection.api.materialize handle index engine =
      (.ok fetched, engine.countFetch.modifyColumns handle
        (·.modify index fun descriptor => { descriptor with cells := zeroed.cells })) := by
  rw [materialize_of_column inProcess kept there, pass]

/-- **Materializing a column that a pass does not fail on keeps the result.** -/
theorem Holds.materialize (inProcess : connection.InProcess)
    (holds : engine.Holds connection.api.layout handle laid first) {index : Nat}
    {original : Descriptor} (there : laid[index]? = some original) (property : Column → Prop)
    (each : ∀ current,
      current = original ∨ index < first ∧ current = original.passed connection.api.layout →
      ∃ fetched, current.materialize connection.api.layout index =
        (.ok fetched, original.passed connection.api.layout) ∧ property fetched) :
    ∃ fetched next, connection.api.materialize handle index engine = (.ok fetched, next) ∧
      property fetched ∧ next.Holds connection.api.layout handle laid (max first (index + 1)) := by
  obtain ⟨native, kept, length, same⟩ := holds
  obtain ⟨inside, _⟩ := List.getElem?_eq_some_iff.1 there
  obtain ⟨current, found⟩ : ∃ current, native.columns[index]? = some current :=
    ⟨_, List.getElem?_eq_getElem (length ▸ inside)⟩
  obtain ⟨fetched, pass, known⟩ := each current (same index current original found there)
  have zeroed : { current with cells := (original.passed connection.api.layout).cells } =
      original.passed connection.api.layout := by
    have cells := current.materialize_snd connection.api.layout index
    rwa [pass] at cells
  have counted : engine.countFetch.result? (some handle) = some native := kept
  refine ⟨fetched, _, materialize_inProcess inProcess kept found pass, known, _,
    result?_modifyColumns counted _, ?_, ?_⟩
  · rw [List.length_modify, length]
  · intro other later laidOut changed known
    by_cases here : index = other
    · subst here
      rw [List.getElem?_modify_eq, found] at changed
      rw [there] at known
      cases known
      cases changed
      exact .inr ⟨by omega, zeroed⟩
    · rw [List.getElem?_modify_ne _ _ here] at changed
      rcases same other later laidOut changed known with untouched | ⟨before, passed⟩
      · exact .inl untouched
      · exact .inr ⟨by omega, passed⟩

end Holds

end Engine

/-! ## Fetching -/

namespace ResultSet

variable {result : ResultSet Engine} {engine : Engine} {laid : List Descriptor} {first : Nat}

theorem rowCount_le {σ : Type} (result : ResultSet σ) : result.rowCount ≤ result.nativeRows := by
  unfold rowCount
  split
  · exact Nat.le_refl _
  · exact Nat.min_le_left _ _

/-- A limit cuts the columns to the number of rows that are shown, which may be all. -/
theorem limit_eq_truncate {σ : Type} {result : ResultSet σ} {columns : Columns}
    (count : columns.rowCount = result.nativeRows) :
    result.limit columns = columns.truncate result.rowCount := by
  unfold limit rowCount
  by_cases unlimited : result.maxRows = 0
  · rw [if_neg (by omega), if_pos unlimited, Columns.truncate, if_pos (Nat.le_of_eq count)]
  · rw [if_neg unlimited]
    by_cases less : result.maxRows < result.nativeRows
    · rw [if_pos ⟨Nat.pos_of_ne_zero unlimited, less⟩, Nat.min_eq_right (Nat.le_of_lt less)]
    · rw [if_neg fun hides => less hides.2, Nat.min_eq_left (Nat.le_of_not_lt less),
        Columns.truncate, if_pos (Nat.le_of_eq count)]

/-- A limit either hides rows or changes nothing. -/
theorem get?_limit {columns : Columns} (count : columns.rowCount = result.nativeRows) (index : Nat)
    {column : Column} (found : (result.limit columns).get? index = some column) :
    ∃ whole, columns.get? index = some whole ∧
      (column = whole.truncate result.rowCount ∨
        column = whole ∧ result.rowCount = result.nativeRows) := by
  rw [limit_eq_truncate count, Columns.truncate] at found
  split at found
  · next all => exact ⟨column, found, .inr ⟨rfl, Nat.le_antisymm result.rowCount_le (count ▸ all)⟩⟩
  · rw [Columns.get?, List.getElem?_map] at found
    obtain ⟨whole, there, rfl⟩ := Option.map_eq_some_iff.1 found
    exact ⟨whole, there, .inl rfl⟩

theorem length_limit (result : ResultSet Engine) (columns : Columns) :
    (result.limit columns).length = columns.length := by
  unfold limit
  split
  · unfold Columns.truncate
    split
    · rfl
    · exact List.length_map _
  · rfl

/-- **Fetching a result whose columns the passes do not fail on.** -/
theorem fetchAll_of_holds (inProcess : result.connection.InProcess)
    (holds : engine.Holds result.connection.api.layout result.native.handle laid first)
    (count : result.columnCount = laid.length) (property : Nat → Column → Prop)
    (each : ∀ index original, laid[index]? = some original → ∀ current,
      current = original ∨
        index < first ∧ current = original.passed result.connection.api.layout →
      ∃ fetched, current.materialize result.connection.api.layout index =
        (.ok fetched, original.passed result.connection.api.layout) ∧ property index fetched) :
    ∃ columns final, result.fetchAll engine = (.ok columns, final) ∧
      columns.length = laid.length ∧
      (∀ index column, columns.get? index = some column → ∃ whole, property index whole ∧
        (column = whole.truncate result.rowCount ∨
          column = whole ∧ result.rowCount = result.nativeRows)) ∧
      final.Holds result.connection.api.layout result.native.handle laid
        (max first laid.length) := by
  have step (index : Nat) (inside : index < laid.length) (state : Engine)
      (before : state.Holds result.connection.api.layout result.native.handle laid
        (max first index)) :
      ∃ column next, result.connection.api.materialize result.native.handle index state =
          (.ok column, next) ∧ property index column ∧
        next.Holds result.connection.api.layout result.native.handle laid
          (max first (index + 1)) := by
    have there := List.getElem?_eq_getElem inside
    obtain ⟨column, next, fetched, known, after⟩ := before.materialize inProcess there _
      fun current seen => each index _ there current
        (seen.imp_right fun ⟨before, passed⟩ => ⟨by omega, passed⟩)
    exact ⟨column, next, fetched, known, by rwa [show max (max first index) (index + 1) =
      max first (index + 1) by omega] at after⟩
  obtain ⟨columns, final, gathered, length, known, after⟩ := Columns.gather_ok
    (fun index (state : Engine) => state.Holds result.connection.api.layout
      result.native.handle laid (max first index)) property
    result.nativeRows step (by rwa [Nat.max_zero])
  refine ⟨result.limit ⟨columns, result.nativeRows⟩, final, ?_, ?_, ?_, after⟩
  · have all : result.connection.api.columns result.native engine =
        (.ok ⟨columns, result.nativeRows⟩, final) := by
      rw [Api.columns, show result.native.header.columnCount = laid.length from count]
      exact gathered
    rw [fetchAll, Call.bind_of_ok all]
    rfl
  · rw [length_limit]
    exact length
  · intro index column found
    obtain ⟨whole, there, cut⟩ := get?_limit rfl index found
    exact ⟨whole, known index whole there, cut⟩

/-! ## Between a query and its fetch -/

/-- What may happen to the engine between a query and a fetch of its result: any requests that
spare the result, and so many fetches of it. -/
inductive Interlude (result : ResultSet Engine) (selected : Engine) : Nat → Engine → Prop
  | start : Interlude result selected 0 selected
  | request {fetches : Nat} {later : Engine} (earlier : Interlude result selected fetches later)
      (request : Engine.Request) (spares : request.Spares result.native.handle) :
      Interlude result selected fetches (request.perform later)
  | fetch {fetches : Nat} {later : Engine} (earlier : Interlude result selected fetches later) :
      Interlude result selected (fetches + 1) (result.fetchAll later).2

/-- The result is held throughout, and as it was laid out until the first fetch. -/
theorem holds_of_interlude (inProcess : result.connection.InProcess) {fetches : Nat}
    {later : Engine} (interlude : result.Interlude engine fetches later)
    (holds : engine.Holds result.connection.api.layout result.native.handle laid 0)
    (count : result.columnCount = laid.length)
    (ours : ∀ original ∈ laid, ∃ column values, OutputColumn.descriptor
      result.connection.api.layout column values = .ok original) :
    ∃ first, later.Holds result.connection.api.layout result.native.handle laid first ∧
      (fetches = 0 → first = 0) := by
  induction interlude with
  | start => exact ⟨0, holds, fun _ => rfl⟩
  | request earlier request spares ih =>
      obtain ⟨first, held, untouched⟩ := ih
      exact ⟨first, held.perform spares, untouched⟩
  | fetch earlier ih =>
      obtain ⟨first, held, _⟩ := ih
      obtain ⟨columns, final, fetched, _, _, after⟩ := fetchAll_of_holds inProcess held count
        (fun _ _ => True) fun index original there current seen => by
          obtain ⟨column, values, laidOut⟩ := ours original (List.mem_of_getElem? there)
          obtain ⟨fetched, pass, _⟩ := OutputColumn.exists_materialize laidOut
            (seen.imp_right And.right) index
          exact ⟨fetched, pass, trivial⟩
      rw [fetched]
      exact ⟨_, after, nofun⟩

end ResultSet

end ColumnStore
