import ColumnStore.Proofs.Client.FetchAll
import ColumnStore.Proofs.Column.Gathering

/-!
# Limits on the number of rows

A limit is applied to columns that have been fetched whole, so it cannot change what fetching does
to the library, nor whether it fails. It cuts the cells, the mask and the boxed rows of every
column. If each column has as many rows as the result reports, all of them are cut to the number
of rows that the result is said to show, and in front of the cut every column reads as before
(`Column.LimitedTo`). More limits are as one, the smallest (`Columns.foldl_truncate`).

The number of cells of a column is a matter of the library. What is needed of one is that it hands
out columns with so many cells, and still does when such cells have been written back
(`Api.HasRows`). The engine does (`Engine.hasRows`).
-/

set_option autoImplicit false

namespace ColumnStore

/-! ## Columns with all their rows -/

namespace Column

variable {α : Type} {column whole : Column} {rows total row : Nat}

/-- A column has so many rows, and so many flags if it keeps track of NULLs. -/
structure Full (column : Column) (rows : Nat) : Prop where
  length_eq : column.length = rows
  flags : ∀ view flags, column.data = .fixed view → view.nulls = some flags → flags.length = rows

theorem Full.truncate (full : column.Full rows) : column.truncate rows = column := by
  obtain ⟨name, data⟩ := column
  obtain ⟨length, flags⟩ := full
  cases data with
  | boxed copy =>
      have all : copy.rows.take rows = copy.rows := List.take_of_length_le (Nat.le_of_eq length)
      simp only [Column.truncate, ColumnData.truncate, BoxedColumn.truncate, all]
  | fixed view =>
      obtain ⟨kind, cells, digits, scale, nulls⟩ := view
      have all : cells.take rows = cells := List.take_of_length_le (Nat.le_of_eq length)
      have mask : nulls.map (·.take rows) = nulls := by
        cases nulls with
        | none => rfl
        | some mask =>
            have allFlags := List.take_of_length_le (Nat.le_of_eq (flags _ mask rfl rfl))
            rw [Option.map_some, allFlags]
      simp only [Column.truncate, ColumnData.truncate, FixedColumn.truncate, all, mask]

theorem truncate_truncate (column : Column) (first second : Nat) :
    (column.truncate first).truncate second = column.truncate (min first second) := by
  obtain ⟨name, data⟩ := column
  rw [Nat.min_comm]
  cases data with
  | boxed copy =>
      simp only [truncate, ColumnData.truncate, BoxedColumn.truncate, List.take_take]
  | fixed view =>
      simp only [truncate, ColumnData.truncate, FixedColumn.truncate, List.take_take,
        Option.map_map, Function.comp_def]

/-- Behind the end of a column no row can be read, and a boxed column has no decimals at all. -/
theorem value_of_le (behind : column.length ≤ row) :
    column.value row = .error (.rowOutOfBounds row column.length) := by
  obtain ⟨name, data⟩ := column
  cases data with
  | fixed view => simp only [value, List.getElem?_eq_none behind, outOfBounds]
  | boxed copy => simp only [value, List.getElem?_eq_none behind, outOfBounds]

theorem isNull_of_le (behind : column.length ≤ row) :
    column.isNull row = .error (.rowOutOfBounds row column.length) :=
  if_neg (Nat.not_lt.2 behind)

theorem decimal_of_le (behind : column.length ≤ row) {view : FixedColumn}
    (fixed : column.data = .fixed view) :
    column.decimal row = .error (.rowOutOfBounds row column.length) := by
  obtain ⟨name, data⟩ := column
  cases fixed
  simp only [decimal, List.getElem?_eq_none behind, outOfBounds]

/-- In front of the end every row can be read. -/
theorem exists_value (inside : row < column.length) :
    ∃ content, column.value row = .ok content := by
  obtain ⟨name, data⟩ := column
  cases data with
  | fixed view =>
      have there : view.cells[row]? = some view.cells[row] := List.getElem?_eq_getElem inside
      simp only [value, there]
      exact ⟨_, rfl⟩
  | boxed copy =>
      have there : copy.rows[row]? = some copy.rows[row] := List.getElem?_eq_getElem inside
      simp only [value, there]
      exact ⟨_, rfl⟩

/-- A way of reading the rows of a column sees the first rows of another one as they are there. What
it can read there behind them is out of bounds here. -/
structure ReadsTo (rows : Nat) (read : Column → Nat → Except Error α) (whole shown : Column) :
    Prop where
  before : ∀ row, row < rows → read shown row = read whole row
  behind : ∀ row answer, rows ≤ row → read whole row = .ok answer →
    read shown row = .error (.rowOutOfBounds row rows)

/-- A column shows the first rows of another one and nothing else of it. -/
structure LimitedTo (rows : Nat) (whole shown : Column) : Prop where
  name_eq : shown.name = whole.name
  type_eq : shown.type = whole.type
  length_eq : shown.length = rows
  fixed : ∀ view, whole.data = .fixed view → ∃ cut, shown.data = .fixed cut ∧
    cut.precision = view.precision ∧ cut.scale = view.scale ∧
    ∀ flags, cut.nulls = some flags → flags.length = cut.cells.length
  value : whole.ReadsTo rows value shown
  isNull : whole.ReadsTo rows isNull shown
  decimal : whole.ReadsTo rows decimal shown

/-- A way of reading that succeeds on the first rows, and is out of bounds behind the cut. -/
theorem readsTo_truncate {read : Column → Nat → Except Error α} (less : rows ≤ whole.length)
    (succeeds : ∀ row, row < rows → ∃ answer, read whole row = .ok answer)
    (same : ∀ row answer, row < rows → read whole row = .ok answer →
      read (whole.truncate rows) row = .ok answer)
    (past : ∀ row, (whole.truncate rows).length ≤ row →
      read (whole.truncate rows) row = .error (.rowOutOfBounds row (whole.truncate rows).length)) :
    whole.ReadsTo rows read (whole.truncate rows) := by
  rw [length_truncate, Nat.min_eq_left less] at past
  refine ⟨fun row inside => ?_, fun row _ behind _ => past row behind⟩
  obtain ⟨answer, found⟩ := succeeds row inside
  rw [found, same row answer inside found]

theorem readsTo_value (less : rows ≤ whole.length) :
    whole.ReadsTo rows value (whole.truncate rows) :=
  readsTo_truncate less (fun _ inside => exists_value (Nat.lt_of_lt_of_le inside less))
    (fun _ _ => value_truncate) fun _ => value_of_le

theorem readsTo_isNull (less : rows ≤ whole.length) :
    whole.ReadsTo rows isNull (whole.truncate rows) :=
  readsTo_truncate less (fun _ inside => ⟨_, if_pos (Nat.lt_of_lt_of_le inside less)⟩)
    (fun _ _ => isNull_truncate) fun _ => isNull_of_le

theorem readsTo_decimal (less : rows ≤ whole.length) :
    whole.ReadsTo rows decimal (whole.truncate rows) := by
  obtain ⟨name, data⟩ := whole
  cases data with
  | fixed view =>
      refine readsTo_truncate less (fun row inside => ?_) (fun _ _ => decimal_truncate)
        fun row behind => decimal_of_le behind rfl
      have there := List.getElem?_eq_getElem (Nat.lt_of_lt_of_le inside less)
      simp only [decimal, there]
      exact ⟨_, rfl⟩
  | boxed copy =>
      refine ⟨fun _ _ => rfl, fun row answer _ found => ?_⟩
      cases found

/-- **Cutting a column.** -/
theorem Full.limitedTo_truncate (full : whole.Full total) (less : rows ≤ total) :
    whole.LimitedTo rows (whole.truncate rows) := by
  have inside : rows ≤ whole.length := full.length_eq ▸ less
  refine ⟨rfl, ?type, ?length, ?fixed, readsTo_value inside, readsTo_isNull inside,
    readsTo_decimal inside⟩
  case type =>
    obtain ⟨name, data⟩ := whole
    cases data <;> rfl
  case length => rw [length_truncate, Nat.min_eq_left inside]
  case fixed =>
    intro view form
    have cells : view.cells.length = total := by
      rw [← full.length_eq, length, form]
      rfl
    refine ⟨view.truncate rows, by rw [Column.truncate, form]; rfl, rfl, rfl, ?_⟩
    intro flags mask
    obtain ⟨wholeFlags, wholeMask, rfl⟩ := Option.map_eq_some_iff.1 mask
    show (wholeFlags.take rows).length = (view.cells.take rows).length
    rw [List.length_take, List.length_take, full.flags view wholeFlags form wholeMask, cells]

end Column

/-! ## All columns of a result -/

namespace Columns

variable {rows : Nat} {columns : Columns}

/-- Columns show the first rows of others, and say so. -/
structure LimitedTo (rows : Nat) (whole shown : Columns) : Prop where
  rowCount_eq : shown.rowCount = rows
  length_eq : shown.length = whole.length
  each : ∀ index column, whole.get? index = some column →
    ∃ cut, shown.get? index = some cut ∧ column.LimitedTo rows cut

/-- Columns that have all their rows are cut to a number of rows; if it is all of them, nothing
changes. -/
theorem truncate_of_le (full : ∀ column ∈ columns.columns, column.Full columns.rowCount)
    (less : rows ≤ columns.rowCount) :
    columns.truncate rows = ⟨columns.columns.map (·.truncate rows), rows⟩ := by
  unfold truncate
  split
  · next all =>
      obtain rfl : rows = columns.rowCount := Nat.le_antisymm less all
      have same : columns.columns.map (·.truncate columns.rowCount) = columns.columns.map id :=
        List.map_congr_left fun column member => (full column member).truncate
      rw [same, List.map_id]
  · rfl

/-- **Cutting columns that have all their rows.** -/
theorem limitedTo_truncate (full : ∀ column ∈ columns.columns, column.Full columns.rowCount)
    (less : rows ≤ columns.rowCount) : columns.LimitedTo rows (columns.truncate rows) := by
  rw [truncate_of_le full less]
  refine ⟨rfl, List.length_map _, fun index column there => ⟨column.truncate rows, ?_, ?_⟩⟩
  · rw [get?, List.getElem?_map, show columns.columns[index]? = some column from there,
      Option.map_some]
  · exact (full column (List.mem_of_getElem? there)).limitedTo_truncate less

/-- One limit after the other is as the smaller one. -/
theorem truncate_truncate (columns : Columns) (first second : Nat) :
    (columns.truncate first).truncate second = columns.truncate (min first second) := by
  by_cases all : columns.rowCount ≤ first
  · have nothing : columns.truncate first = columns := if_pos all
    rw [nothing]
    by_cases less : second ≤ first
    · rw [Nat.min_eq_right less]
    · have both : columns.rowCount ≤ second := by omega
      rw [truncate, if_pos both, truncate, if_pos (Nat.le_min.2 ⟨all, both⟩)]
  · have cut : columns.truncate first = ⟨columns.columns.map (·.truncate first), first⟩ :=
      if_neg all
    have cutAgain : columns.truncate (min first second) =
        ⟨columns.columns.map (·.truncate (min first second)), min first second⟩ :=
      if_neg fun all' => all (Nat.le_trans all' (Nat.min_le_left first second))
    rw [cut, cutAgain, truncate]
    by_cases more : first ≤ second
    · rw [if_pos more, Nat.min_eq_left more]
    · rw [if_neg more, Nat.min_eq_right (Nat.le_of_not_le more), List.map_map]
      congr 1
      refine List.map_congr_left fun column _ => ?_
      rw [Function.comp_apply, Column.truncate_truncate, Nat.min_eq_right (Nat.le_of_not_le more)]

/-- **More limits** are as the smallest of them. -/
theorem foldl_truncate (columns : Columns) (limits : List Nat) (rows : Nat) :
    limits.foldl truncate (columns.truncate rows) = columns.truncate (limits.foldl min rows) := by
  induction limits generalizing rows with
  | nil => rfl
  | cons limit rest ih => rw [List.foldl_cons, List.foldl_cons, truncate_truncate, ih]

end Columns

/-! ## Libraries that hand out so many rows -/

namespace Api

variable {σ : Type} {api : Api σ} {handle : Handle .result} {rows : Nat} {kept : σ → Prop}

/-- The columns of a result have so many rows: in states of some kind, every column that is handed
out does, and asking for one or writing back as many cells leads to such a state again. -/
structure HasRows (api : Api σ) (handle : Handle .result) (rows : Nat) (kept : σ → Prop) :
    Prop where
  handed : ∀ state index live next, kept state →
    api.table.resultFetch (some handle) index state = (.ok (some live), next) →
      live.descriptor.cells.count = rows
  asked : ∀ state index, kept state → kept (api.table.resultFetch (some handle) index state).2
  written : ∀ state live cells, kept state → cells.count = rows →
    kept (api.table.writeCells live cells state).2

end Api

/-! ## Materializing -/

theorem FixedColumn.count_ofCells (kind : FixedKind) (digits scale : Nat)
    (array : CellArray kind.Cell) :
    (ofCells kind digits scale array).2.storage.count = array.storage.count := by
  cases stored : array.storage with
  | missing count =>
      cases count <;> simp only [ofCells, stored]
  | buffer cells =>
      rw [ofCells_buffer digits scale stored]
      exact List.length_map _

/-- The cells that are written back are as many as before. -/
theorem Descriptor.count_passed (descriptor : Descriptor) (layout : TagLayout) :
    (descriptor.passed layout).cells.count = descriptor.cells.count := by
  unfold passed
  by_cases named : layout.decode? descriptor.tag = .ok (some descriptor.cells.type)
  · cases laid : descriptor.cells with
    | fixed kind array =>
        rw [laid] at named
        rw [materialize_of_fixed named laid]
        exact FixedColumn.count_ofCells kind descriptor.digits descriptor.scale array
    | boxed kind array =>
        rw [laid] at named
        rw [materialize_of_boxed named laid, laid]
  · obtain ⟨_, refused⟩ := exists_materialize_eq_error named 0
    rw [refused]

/-- A column has as many rows as the descriptor has cells. -/
theorem Descriptor.full_of_materialize {descriptor : Descriptor} {layout : TagLayout} {index : Nat}
    {column : Column} (pass : (descriptor.materialize layout index).1 = .ok column) :
    column.Full descriptor.cells.count := by
  rcases materialize_cases pass with
    ⟨kind, array, view, after, _, laid, done, rfl, _⟩ | ⟨kind, array, _, laid, rfl, _⟩
  · obtain ⟨cells, count, rfl⟩ := FixedColumn.view_of_ofCells done
    rw [laid]
    refine ⟨(List.length_map _).trans count, fun view flags form mask => ?_⟩
    cases form
    obtain ⟨_, same⟩ := Option.ite_none_right_eq_some.1 mask
    cases same
    exact (List.length_map _).trans count
  · rw [laid]
    refine ⟨?_, nofun⟩
    show (BoxedColumn.ofCells kind array).rows.length = array.storage.count
    unfold BoxedColumn.ofCells
    split
    · next count stored => rw [stored, List.length_replicate, Storage.count]
    · next cells stored => rw [stored, List.length_map, Storage.count]

namespace Api.HasRows

variable {σ : Type} {api : Api σ} {handle : Handle .result} {rows : Nat} {kept : σ → Prop}

theorem resultFetch (hasRows : api.HasRows handle rows kept) (index : Nat) :
    Call.Ensures kept (fun live => live.descriptor.cells.count = rows)
      (api.resultFetch handle index) := by
  have checked : Call.Ensures kept
      (fun reply => ∀ live, reply = some live → live.descriptor.cells.count = rows)
      (check .resultFetch (api.table.resultFetch (some handle) index)) := by
    refine ensures_check fun state holds => ⟨hasRows.asked state index holds, ?_⟩
    rintro reply answered live rfl
    exact hasRows.handed state index live _ holds (Prod.ext answered rfl)
  refine checked.bind fun reply counted => ?_
  cases reply with
  | none => exact Call.ensures_throw _
  | some live => exact Call.ensures_pure (counted live rfl)

/-- **Materializing a column** keeps the number of rows, and the column has as many. -/
theorem materialize (hasRows : api.HasRows handle rows kept) (index : Nat) :
    Call.Ensures kept (·.Full rows) (api.materialize handle index) := by
  refine (hasRows.resultFetch index).bind fun live count => ?_
  have back : (live.descriptor.materialize api.layout index).2.cells.count = rows := by
    rw [Descriptor.materialize_snd_eq_passed, Descriptor.count_passed, count]
  intro state holds
  refine ⟨hasRows.written state live _ holds back, fun column pass => ?_⟩
  exact count ▸ Descriptor.full_of_materialize pass

/-- All columns that are gathered have so many rows. -/
theorem columns {result : LiveResult} (hasRows : api.HasRows result.handle rows kept) :
    Call.Ensures kept
      (fun columns => columns.rowCount = result.header.rowCount.toNat ∧
        ∀ column ∈ columns.columns, column.Full rows)
      (api.columns result) :=
  Columns.ensures_gather hasRows.materialize _ _

end Api.HasRows

namespace Engine

variable {engine : Engine} {handle : Handle .result} {rows : Nat}

/-- The engine keeps a result, all columns of which have so many cells. -/
def KeepsRows (engine : Engine) (handle : Handle .result) (rows : Nat) : Prop :=
  ∃ native, engine.result? (some handle) = some native ∧
    ∀ descriptor ∈ native.columns, descriptor.cells.count = rows

/-- Writing to a column of any result leaves as many cells. -/
theorem KeepsRows.writeCells (keeps : engine.KeepsRows handle rows) (live : LiveColumn)
    {cells : ColumnCells} (count : cells.count = rows) :
    (Engine.writeCells live cells engine).2.KeepsRows handle rows := by
  obtain ⟨native, kept, counted⟩ := keeps
  by_cases ours : live.result.number = handle.number
  · have same : (Engine.writeCells live cells engine).2 = engine.modifyColumns handle
        (·.modify live.index fun descriptor => { descriptor with cells }) := by
      simp only [Engine.writeCells, modifyColumns, ours]
    rw [same]
    refine ⟨_, result?_modifyColumns kept _, fun descriptor member => ?_⟩
    obtain ⟨index, there⟩ := List.mem_iff_getElem?.1 member
    by_cases here : live.index = index
    · subst here
      rw [List.getElem?_modify_eq] at there
      obtain ⟨before, _, rfl⟩ := Option.map_eq_some_iff.1 there
      exact count
    · rw [List.getElem?_modify_ne _ _ here] at there
      exact counted descriptor (List.mem_of_getElem? there)
  · exact ⟨native, result?_modifyColumns_of_ne kept ours _, counted⟩

/-- **The engine hands out columns with the rows that it keeps for them.** -/
theorem hasRows {connection : Connection Engine} (inProcess : connection.InProcess)
    (handle : Handle .result) (rows : Nat) :
    connection.api.HasRows handle rows fun engine => engine.KeepsRows handle rows := by
  have table : connection.api.table = functionTable connection.api.layout := inProcess
  have fetching (engine : Engine) (index : Nat) (keeps : engine.KeepsRows handle rows) :
      (resultFetch (some handle) true index engine).2.KeepsRows handle rows ∧
        ∀ live, (resultFetch (some handle) true index engine).1 = .ok (some live) →
          live.descriptor.cells.count = rows := by
    obtain ⟨native, kept, counted⟩ := keeps
    cases there : native.columns[index]? with
    | none =>
        rw [resultFetch_of_outside kept (List.getElem?_eq_none_iff.1 there)]
        exact ⟨⟨native, kept, counted⟩, nofun⟩
    | some descriptor =>
        rw [resultFetch_of_column kept there]
        refine ⟨⟨native, kept, counted⟩, fun live same => ?_⟩
        cases same
        exact counted descriptor (List.mem_of_getElem? there)
  refine ⟨fun engine index live next keeps handed => ?_, fun engine index keeps => ?_,
    fun engine live cells keeps count => ?_⟩
  · rw [table] at handed
    exact (fetching engine index keeps).2 live (congrArg Prod.fst handed)
  · rw [table]
    exact (fetching engine index keeps).1
  · rw [table]
    exact keeps.writeCells live count

end Engine

/-! ## Fetching under a limit -/

namespace ResultSet

variable {σ : Type} {result : ResultSet σ}

/-- The same result under a limit on its rows; zero is none. -/
def within (result : ResultSet σ) (maxRows : Nat) : ResultSet σ :=
  { result with maxRows }

/-- The limit is applied at the end. -/
theorem fetchAll_eq (result : ResultSet σ) (state : σ) :
    result.fetchAll state =
      (result.limit <$> (result.connection.api.columns result.native state).1,
        (result.connection.api.columns result.native state).2) := by
  rcases run : result.connection.api.columns result.native state with ⟨outcome, final⟩
  unfold fetchAll
  cases outcome with
  | error error =>
      rw [Call.bind_of_error run]
      rfl
  | ok columns =>
      rw [Call.bind_of_ok run]
      rfl

/-- **A limit only hides rows.** Let every column of a result have as many rows as the result
reports. Then fetching under a limit leaves the library as fetching without one, fails as that does,
and otherwise shows the first rows of the same columns. More limits leave the first rows of these,
as many as the smallest of them allows. -/
theorem limit_only_hides (result : ResultSet σ) (kept : σ → Prop)
    (hasRows : result.connection.api.HasRows result.native.handle result.nativeRows kept)
    (state : σ) (holds : kept state) (maxRows : Nat) :
    ((result.within maxRows).fetchAll state).2 = ((result.within 0).fetchAll state).2 ∧
      (result.within maxRows).rowCount =
        (if maxRows = 0 then result.nativeRows else min maxRows result.nativeRows) ∧
      Except.Agree
        (fun whole shown =>
          whole.LimitedTo (result.within maxRows).rowCount shown ∧
          ∀ limits : List Nat, limits.foldl Columns.truncate shown =
              shown.truncate (limits.foldl min (result.within maxRows).rowCount) ∧
            whole.LimitedTo (limits.foldl min (result.within maxRows).rowCount)
              (limits.foldl Columns.truncate shown))
        ((result.within 0).fetchAll state).1 ((result.within maxRows).fetchAll state).1 := by
  obtain ⟨-, known⟩ := hasRows.columns state holds
  have less : (result.within maxRows).rowCount ≤ result.nativeRows := rowCount_le _
  rw [fetchAll_eq, fetchAll_eq]
  refine ⟨rfl, ?rowCount, ?agree⟩
  case rowCount =>
    rw [Nat.min_comm]
    rfl
  case agree =>
    show Except.Agree _
      ((result.within 0).limit <$> (result.connection.api.columns result.native state).1)
      ((result.within maxRows).limit <$> (result.connection.api.columns result.native state).1)
    cases fetched : (result.connection.api.columns result.native state).1 with
    | error error => exact .error error
    | ok columns =>
        obtain ⟨count, full⟩ := known columns fetched
        have whole : (result.within 0).limit columns = columns := rfl
        have shown : (result.within maxRows).limit columns =
            columns.truncate (result.within maxRows).rowCount := limit_eq_truncate count
        have fullCount : ∀ column ∈ columns.columns, column.Full columns.rowCount := count ▸ full
        refine .ok ?_
        rw [whole, shown]
        refine ⟨Columns.limitedTo_truncate fullCount (count ▸ less), fun limits => ?_⟩
        have smallest : limits.foldl min (result.within maxRows).rowCount ≤
            (result.within maxRows).rowCount := by
          rw [List.foldl_min]
          exact Nat.min_le_left _ _
        rw [Columns.foldl_truncate, Columns.truncate_truncate, Nat.min_eq_right smallest]
        exact ⟨rfl, Columns.limitedTo_truncate fullCount (count ▸ Nat.le_trans smallest less)⟩

end ResultSet

/-- A result with three prices, the second of which is NULL, as the engine keeps it; two of them are
to be shown. -/
def ResultSet.priced : ResultSet Engine × Engine :=
  let prices : List IntegerKind.int32.Number :=
    [IntegerKind.int32.zero, IntegerKind.int32.sentinel, IntegerKind.int32.zero]
  let (result, engine) := Engine.empty.addResult
    ⟨⟨3, 1, none, -1⟩,
      [⟨3, none, 5, 2, .fixed (.integer .int32) (.ofFixed (.integer .int32) prices)⟩]⟩
  (⟨Connection.toFirst .default, result, 2, false⟩, engine)

/-- The second price is still NULL, and the third is out of bounds. -/
theorem ResultSet.limit_only_hides_third : ∃ whole shown cut,
    ((priced.1.within 0).fetchAll priced.2).1 = .ok whole ∧
      ((priced.1.within 2).fetchAll priced.2).1 = .ok shown ∧ whole.LimitedTo 2 shown ∧
      shown.get? 0 = some cut ∧ cut.isNull 1 = .ok true ∧
      cut.value 2 = .error (.rowOutOfBounds 2 2) := by
  have keeps : priced.2.KeepsRows priced.1.native.handle 3 :=
    ⟨_, Engine.result?_addResult_self _ _, fun descriptor member => by
      cases List.mem_singleton.1 member
      rfl⟩
  obtain ⟨-, -, agree⟩ := limit_only_hides priced.1 _
    (Engine.hasRows (Connection.inProcess_toFirst .default) priced.1.native.handle 3)
    priced.2 keeps 2
  obtain ⟨whole, fetched⟩ : ∃ whole,
      ((priced.1.within 0).fetchAll priced.2).1 = .ok whole := ⟨_, rfl⟩
  obtain ⟨shown, cut, limited, there, null, outside⟩ : ∃ shown cut,
      ((priced.1.within 2).fetchAll priced.2).1 = .ok shown ∧ shown.get? 0 = some cut ∧
        cut.isNull 1 = .ok true ∧ cut.value 2 = .error (.rowOutOfBounds 2 2) :=
    ⟨_, _, rfl, rfl, rfl, rfl⟩
  rw [fetched, limited] at agree
  cases agree with
  | ok known => exact ⟨whole, shown, cut, fetched, limited, known.1, there, null, outside⟩

end ColumnStore
