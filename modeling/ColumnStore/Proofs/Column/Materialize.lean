import ColumnStore.Proofs.Column.ReadBack
import ColumnStore.Proofs.Column.Sweep

/-!
# Materializing the columns of the engine

The engine lays out a column of a result under a tag that names its type again, with a
buffer of cells and the engine's own test for NULL. Materializing such a descriptor never
fails. The first pass leaves a descriptor that later passes do not change any more, and apart
from the mask of a decimal column they see what the first pass saw.

Main results: `OutputColumn.materialize_plain`, `OutputColumn.materialize_decimal` and
`OutputColumn.materialize_integer`.
-/

set_option autoImplicit false

namespace ColumnStore

/-! ## Cells laid out by the engine -/

namespace FixedKind

theorem isSentinel_zero (kind : FixedKind) : kind.isSentinel kind.zero = false := by
  rcases kind with _ | kind | _ | _
  case integer => cases kind <;> decide
  all_goals decide

/-- What is shown does not become another cell when it is shown again. -/
theorem shown_shown (kind : FixedKind) (cell : kind.Cell) :
    kind.shown (kind.shown cell) = kind.shown cell := by
  unfold shown
  by_cases reserved : kind.isSentinel cell
  · rw [if_pos reserved, isSentinel_zero]
    rfl
  · rw [if_neg reserved, if_neg reserved]

end FixedKind

theorem truthTest_ne_zero {α : Type} (test : α → Bool) (cell : α) :
    decide (truthTest test cell ≠ 0) = test cell := by
  unfold truthTest
  cases test cell <;> rfl

theorem CellArray.isNull_ofFixed (kind : FixedKind) (cells : List kind.Cell) (cell : kind.Cell) :
    (ofFixed kind cells).isNull cell = kind.isSentinel cell :=
  truthTest_ne_zero _ _

theorem CellArray.isNull_ofBoxed (kind : BoxedKind) (cells : List kind.Cell) (cell : kind.Cell) :
    (ofBoxed kind cells).isNull cell = kind.isSentinel cell :=
  truthTest_ne_zero _ _

/-- The view of fixed-width cells of the engine. -/
def FixedColumn.view (kind : FixedKind) (digits scale : Nat) (cells : List kind.Cell) :
    FixedColumn :=
  ⟨kind, cells.map kind.shown, digits, scale,
    if scale ≠ 0 ∧ true ∈ cells.map kind.isSentinel then some (cells.map kind.isSentinel)
    else none⟩

theorem FixedColumn.ofCells_ofFixed (kind : FixedKind) (digits scale : Nat)
    (cells : List kind.Cell) :
    ofCells kind digits scale (.ofFixed kind cells) =
      (.ok (view kind digits scale cells), .ofFixed kind (cells.map kind.shown)) := by
  have flags : cells.map (CellArray.ofFixed kind cells).isNull = cells.map kind.isSentinel :=
    List.map_congr_left fun cell _ => CellArray.isNull_ofFixed kind cells cell
  have shown : zeroed (.ofFixed kind cells) cells = cells.map kind.shown :=
    List.map_congr_left fun cell _ => by simp only [CellArray.isNull_ofFixed, FixedKind.shown]
  rw [ofCells_buffer digits scale rfl, view, mask, flags, shown]
  rfl

theorem BoxedColumn.ofCells_ofBoxed (kind : BoxedKind) (cells : List kind.Cell) :
    ofCells kind (.ofBoxed kind cells) = ⟨kind, cells.map kind.copied⟩ := by
  have copied : cells.map (fun cell =>
      if (CellArray.ofBoxed kind cells).isNull cell then none else kind.content? cell) =
        cells.map kind.copied :=
    List.map_congr_left fun cell _ => by simp only [CellArray.isNull_ofBoxed, BoxedKind.copied]
  rw [← copied]
  rfl

namespace Descriptor

variable {layout : TagLayout} {descriptor : Descriptor}

theorem materialize_fixed {kind : FixedKind} {cells : List kind.Cell}
    (tagged : layout.decode? descriptor.tag = .ok (some (.fixed kind)))
    (laid : descriptor.cells = .fixed kind (.ofFixed kind cells)) (index : Nat) :
    descriptor.materialize layout index =
      (.ok ⟨descriptor.label,
          .fixed (FixedColumn.view kind descriptor.digits descriptor.scale cells)⟩,
        { descriptor with cells := .fixed kind (.ofFixed kind (cells.map kind.shown)) }) := by
  rw [materialize_of_fixed tagged laid, FixedColumn.ofCells_ofFixed]
  rfl

theorem materialize_boxed {kind : BoxedKind} {cells : List kind.Cell}
    (tagged : layout.decode? descriptor.tag = .ok (some (.boxed kind)))
    (laid : descriptor.cells = .boxed kind (.ofBoxed kind cells)) (index : Nat) :
    descriptor.materialize layout index =
      (.ok ⟨descriptor.label, .boxed ⟨kind, cells.map kind.copied⟩⟩, descriptor) := by
  rw [materialize_of_boxed tagged laid, BoxedColumn.ofCells_ofBoxed]

end Descriptor

/-! ## What a column shows -/

/-- The column has just these values in its rows, and knows which of them are NULL. -/
structure Column.Shows (column : Column) (values : List Value) : Prop where
  length_eq : column.length = values.length
  value_eq : ∀ row value, values[row]? = some value → column.value row = .ok value
  isNull_eq : ∀ row value, values[row]? = some value → column.isNull row = .ok value.isNull

/-- What a fixed-width cell of the engine is read as in a column with a scale: without one
what the cell shows, otherwise NULL or the decimal of an integer. -/
def FixedKind.read (kind : FixedKind) (scale : Nat) (cell : kind.Cell) : Value :=
  if scale = 0 then kind.value (kind.shown cell)
  else if kind.isSentinel cell then .null
  else
    match (kind.value cell).toInt? with
    | some unscaled => .decimal (Decimal.fromUnscaled unscaled scale)
    | none => kind.value cell

theorem FixedKind.isNull_value (kind : FixedKind) (cell : kind.Cell) :
    (kind.value cell).isNull = false := by
  cases kind <;> rfl

theorem FixedKind.isNull_read (kind : FixedKind) (scale : Nat) (cell : kind.Cell) :
    (kind.read scale cell).isNull = (decide (scale ≠ 0) && kind.isSentinel cell) := by
  unfold read
  split_ifs with flat reserved
  · simp [flat, isNull_value]
  · simp [flat, reserved, Value.isNull]
  · simp only [reserved, Bool.and_false]
    split
    · rfl
    · exact isNull_value kind cell

namespace FixedColumn

variable {kind : FixedKind} {digits scale : Nat} {cells : List kind.Cell}

/-- The mask flags the cells reserved for NULL, if the column has a scale. -/
theorem isNull_view {row : Nat} {cell : kind.Cell} (found : cells[row]? = some cell) :
    (view kind digits scale cells).isNull row = (decide (scale ≠ 0) && kind.isSentinel cell) := by
  have flag : (cells.map kind.isSentinel)[row]? = some (kind.isSentinel cell) := by
    rw [List.getElem?_map, found, Option.map_some]
  by_cases masked : scale ≠ 0 ∧ true ∈ cells.map kind.isSentinel
  · have mask : (view kind digits scale cells).nulls = some (cells.map kind.isSentinel) :=
      if_pos masked
    rw [isNull, mask]
    simp only [flag, Option.getD_some, masked.1, ne_eq, not_false_eq_true, decide_true,
      Bool.true_and]
  · have mask : (view kind digits scale cells).nulls = none := if_neg masked
    rw [isNull, mask]
    by_cases scaled : scale ≠ 0
    · have unflagged : kind.isSentinel cell ≠ true := fun reserved =>
        masked ⟨scaled, reserved ▸ List.mem_of_getElem? flag⟩
      simp [unflagged]
    · simp [scaled]

theorem getElem?_view {row : Nat} {cell : kind.Cell} (found : cells[row]? = some cell) :
    (view kind digits scale cells).cells[row]? = some (kind.shown cell) := by
  show (cells.map kind.shown)[row]? = _
  rw [List.getElem?_map, found, Option.map_some]

/-- Without a scale a second pass sees what the first saw. -/
theorem view_shown : view kind digits 0 (cells.map kind.shown) = view kind digits 0 cells := by
  have same : (cells.map kind.shown).map kind.shown = cells.map kind.shown := by
    rw [List.map_map]
    exact List.map_congr_left fun cell _ => kind.shown_shown cell
  have noMask (flags : List Bool) :
      (if (0 : Nat) ≠ 0 ∧ true ∈ flags then some flags else none) = none := if_neg (by simp)
  simp only [view, same, noMask]

theorem valueOf_view {row : Nat} {cell : kind.Cell} (found : cells[row]? = some cell) :
    (view kind digits scale cells).valueOf ((view kind digits scale cells).isNull row)
      (kind.shown cell) = kind.read scale cell := by
  rw [isNull_view found]
  unfold FixedKind.read valueOf isDecimal
  by_cases flat : scale = 0
  · subst flat
    simp [view]
  · by_cases reserved : kind.isSentinel cell
    · simp [flat, reserved]
    · have kept : kind.shown cell = cell := if_neg reserved
      cases whole : (kind.value cell).toInt? with
      | none => simp [flat, reserved, kept, view, whole]
      | some unscaled => simp [flat, reserved, kept, view, whole]

/-- The column of a view has what its cells are read as. -/
theorem shows_view (name : String) (kind : FixedKind) (digits scale : Nat)
    (cells : List kind.Cell) :
    (Column.mk name (.fixed (view kind digits scale cells))).Shows
      (cells.map (kind.read scale)) := by
  have cellAt {row : Nat} {value : Value}
      (found : (cells.map (kind.read scale))[row]? = some value) :
      ∃ cell, cells[row]? = some cell ∧ kind.read scale cell = value := by
    rw [List.getElem?_map] at found
    exact Option.map_eq_some_iff.1 found
  refine ⟨?_, ?_, ?_⟩
  · simp [Column.length, ColumnData.length, view]
  · intro row value found
    obtain ⟨cell, there, rfl⟩ := cellAt found
    simp only [Column.value, getElem?_view there, valueOf_view there]
  · intro row value found
    obtain ⟨cell, there, rfl⟩ := cellAt found
    have inside : row < (Column.mk name (.fixed (view kind digits scale cells))).length := by
      have bound := (List.getElem?_eq_some_iff.1 there).1
      simpa [Column.length, ColumnData.length, view] using bound
    rw [Column.isNull, if_pos inside]
    simp only [ColumnData.isNull, isNull_view there, FixedKind.isNull_read]

end FixedColumn

/-- The decimal that a value is, if it is one. -/
def Value.decimal? : Value → Option Decimal
  | .decimal number => some number
  | _ => none

/-- The exact numbers of an integer column with a scale are the decimals it shows. -/
theorem FixedColumn.decimal_view {kind : IntegerKind} {digits scale : Nat}
    {cells : List kind.Number} (scaled : scale ≠ 0) (name : String) {row : Nat}
    {cell : kind.Number} (found : cells[row]? = some cell) :
    (Column.mk name (.fixed (view (.integer kind) digits scale cells))).decimal row =
      .ok ((FixedKind.integer kind).read scale cell).decimal? := by
  have shown : (view (.integer kind) digits scale cells).cells[row]? =
      some (FixedKind.shown (.integer kind) cell) := getElem?_view found
  have masked : (view (.integer kind) digits scale cells).isNull row =
      (decide (scale ≠ 0) && FixedKind.isSentinel (.integer kind) cell) := isNull_view found
  simp only [Column.decimal, shown, masked, decimalOf, FixedKind.read, if_neg scaled]
  by_cases reserved : FixedKind.isSentinel (.integer kind) cell
  · simp [reserved, scaled, Value.decimal?]
  · simp [reserved, FixedKind.shown, view, FixedKind.value, Value.toInt?, Value.decimal?]

/-- The column of boxed cells has what was copied out of them. -/
theorem BoxedColumn.shows (name : String) (kind : BoxedKind) (rows : List (Option kind.Content)) :
    (Column.mk name (.boxed ⟨kind, rows⟩)).Shows
      (rows.map fun content => content.elim .null kind.value) := by
  have contentAt {row : Nat} {value : Value}
      (found : (rows.map fun content => content.elim .null kind.value)[row]? = some value) :
      ∃ content, rows[row]? = some content ∧ content.elim .null kind.value = value := by
    rw [List.getElem?_map] at found
    exact Option.map_eq_some_iff.1 found
  refine ⟨by simp [Column.length, ColumnData.length], ?_, ?_⟩
  · intro row value found
    obtain ⟨content, there, rfl⟩ := contentAt found
    simp only [Column.value, there, valueOf]
    cases content <;> rfl
  · intro row value found
    obtain ⟨content, there, rfl⟩ := contentAt found
    have inside := (List.getElem?_eq_some_iff.1 there).1
    rw [Column.isNull, if_pos (by simpa [Column.length, ColumnData.length] using inside)]
    simp only [ColumnData.isNull, isNull, there]
    cases content with
    | none => rfl
    | some content => cases kind <;> rfl

/-! ## The columns of a result -/

/-- The column has the name and the storage type of an output column, and so many rows. -/
structure Column.Fits (column : Column) (output : OutputColumn) (rows : Nat) : Prop where
  name_eq : column.name = output.name
  type_eq : column.type = output.type.storage
  length_eq : column.length = rows

/-- The descriptor after a pass over it. -/
def Descriptor.passed (layout : TagLayout) (descriptor : Descriptor) : Descriptor :=
  (descriptor.materialize layout 0).2

namespace OutputColumn

variable {layout : TagLayout} {column : OutputColumn} {values : List Value}
  {descriptor current : Descriptor}

theorem decode?_of_tag {type : DeclaredType} {tag : Int32}
    (tagged : OutputColumn.tag layout type = .ok tag) :
    layout.decode? tag = .ok (some type.storage) := by
  unfold OutputColumn.tag at tagged
  split at tagged
  · next encoded =>
      cases tagged
      exact TagLayout.decode?_encode encoded
  · cases tagged

theorem laidOut (laid : column.descriptor layout values = .ok descriptor) :
    layout.decode? descriptor.tag = .ok (some column.type.storage) ∧
      descriptor.label = column.name ∧
      descriptor.scale = column.type.scale ∧ column.cells values = .ok descriptor.cells := by
  obtain ⟨⟨⟩, carried, laid⟩ := Except.bind_eq_ok.1 laid
  obtain ⟨tag, tagged, laid⟩ := Except.bind_eq_ok.1 laid
  obtain ⟨name, named, laid⟩ := Except.bind_eq_ok.1 laid
  obtain ⟨cells, filled, whole⟩ := Except.bind_eq_ok.1 laid
  cases whole
  exact ⟨decode?_of_tag tagged, toString_of_terminated named, rfl, filled⟩

theorem cells_fixed {kind : FixedKind} {cells : ColumnCells}
    (storage : column.type.storage = .fixed kind) (laid : column.cells values = .ok cells) :
    cells = .fixed kind (.ofFixed kind (values.map (fixedCell kind column.type.scale))) := by
  simp only [OutputColumn.cells, storage] at laid
  cases laid
  rfl

theorem cells_boxed {kind : BoxedKind} {cells : ColumnCells}
    (storage : column.type.storage = .boxed kind) (laid : column.cells values = .ok cells) :
    ∃ list, List.Forall₂ (fun value cell => boxedCell kind value = .ok cell) values list ∧
      cells = .boxed kind (.ofBoxed kind list) := by
  simp only [OutputColumn.cells, storage] at laid
  obtain ⟨list, each, whole⟩ := Except.bind_eq_ok.1 laid
  cases whole
  exact ⟨list, Except.mapM_eq_ok.1 each, rfl⟩

/-- The first pass over fixed-width cells. -/
theorem materialize_first {kind : FixedKind} (storage : column.type.storage = .fixed kind)
    (laid : column.descriptor layout values = .ok descriptor) (index : Nat) :
    descriptor.materialize layout index =
      (.ok ⟨column.name, .fixed (FixedColumn.view kind descriptor.digits column.type.scale
        (values.map (fixedCell kind column.type.scale)))⟩, descriptor.passed layout) := by
  obtain ⟨tagged, label, scale, cells⟩ := laidOut laid
  have buffer := cells_fixed storage cells
  rw [storage] at tagged
  rw [Descriptor.passed, Descriptor.materialize_fixed tagged buffer,
    Descriptor.materialize_fixed tagged buffer, label, scale]

/-- Every later pass over fixed-width cells. -/
theorem materialize_later {kind : FixedKind} (storage : column.type.storage = .fixed kind)
    (laid : column.descriptor layout values = .ok descriptor) (index : Nat) :
    (descriptor.passed layout).materialize layout index =
      (.ok ⟨column.name, .fixed (FixedColumn.view kind descriptor.digits column.type.scale
        ((values.map (fixedCell kind column.type.scale)).map kind.shown))⟩,
        descriptor.passed layout) := by
  obtain ⟨tagged, label, scale, cells⟩ := laidOut laid
  have buffer := cells_fixed storage cells
  rw [storage] at tagged
  have once : descriptor.passed layout = { descriptor with
      cells := .fixed kind (.ofFixed kind
        ((values.map (fixedCell kind column.type.scale)).map kind.shown)) } := by
    rw [Descriptor.passed, Descriptor.materialize_fixed tagged buffer]
  have still (list : List kind.Cell) :
      (list.map kind.shown).map kind.shown = list.map kind.shown := by
    rw [List.map_map]
    exact List.map_congr_left fun cell _ => kind.shown_shown cell
  have againTagged : layout.decode? (descriptor.passed layout).tag = .ok (some (.fixed kind)) := by
    rw [once, tagged]
  have againLaid : (descriptor.passed layout).cells = .fixed kind (.ofFixed kind
      ((values.map (fixedCell kind column.type.scale)).map kind.shown)) := by rw [once]
  rw [Descriptor.materialize_fixed againTagged againLaid, still, once, ← label, ← scale]
  rfl

/-- Every pass over boxed cells. -/
theorem materialize_boxed {kind : BoxedKind} (storage : column.type.storage = .boxed kind)
    (laid : column.descriptor layout values = .ok descriptor) :
    ∃ list, List.Forall₂ (fun value cell => boxedCell kind value = .ok cell) values list ∧
      ∀ current, current = descriptor ∨ current = descriptor.passed layout → ∀ index,
        current.materialize layout index =
          (.ok ⟨column.name, .boxed ⟨kind, list.map kind.copied⟩⟩, descriptor.passed layout) := by
  obtain ⟨tagged, label, _, cells⟩ := laidOut laid
  obtain ⟨list, each, buffer⟩ := cells_boxed storage cells
  rw [storage] at tagged
  have unchanged : descriptor.passed layout = descriptor := by
    rw [Descriptor.passed, Descriptor.materialize_boxed tagged buffer]
  refine ⟨list, each, fun current seen index => ?_⟩
  have same : current = descriptor := by
    rcases seen with first | later
    · exact first
    · exact later.trans unchanged
  rw [same, unchanged, Descriptor.materialize_boxed tagged buffer, label]

theorem storage_ne_unknown (type : DeclaredType) : type.storage ≠ .unknown := by
  cases type <;> exact nofun

/-- A pass over a column of the engine succeeds, whether it is the first or a later one. -/
theorem exists_materialize (laid : column.descriptor layout values = .ok descriptor)
    (seen : current = descriptor ∨ current = descriptor.passed layout) (index : Nat) :
    ∃ fetched, current.materialize layout index = (.ok fetched, descriptor.passed layout) ∧
      fetched.Fits column values.length := by
  cases storage : column.type.storage with
  | fixed kind =>
      have viewed (digits scale : Nat) {cells : List kind.Cell}
          (count : cells.length = values.length) :
          (Column.mk column.name (.fixed (FixedColumn.view kind digits scale cells))).Fits column
            values.length :=
        ⟨rfl, storage.symm, by simpa [Column.length, ColumnData.length, FixedColumn.view]⟩
      rcases seen with rfl | rfl
      · exact ⟨_, materialize_first storage laid index, viewed _ _ (by simp)⟩
      · exact ⟨_, materialize_later storage laid index, viewed _ _ (by simp)⟩
  | boxed kind =>
      obtain ⟨list, each, materialized⟩ := materialize_boxed storage laid
      exact ⟨_, materialized current seen index, rfl, storage.symm, by
        simp [Column.length, ColumnData.length, each.length_eq]⟩
  | unknown => exact absurd storage (storage_ne_unknown _)

theorem scale_of_not_decimal {type : DeclaredType} (plain : type.isDecimal = false) :
    type.scale = 0 := by
  cases type <;> first | rfl | cases plain

/-- **A pass over a column that is no decimal reads back every value**, also when an earlier
pass has set cells to zero. -/
theorem materialize_plain (laid : column.descriptor layout values = .ok descriptor)
    (plain : column.type.isDecimal = false)
    (kept : ∀ value ∈ values, column.type.Stores value)
    (seen : current = descriptor ∨ current = descriptor.passed layout) (index : Nat) :
    ∃ fetched, current.materialize layout index = (.ok fetched, descriptor.passed layout) ∧
      fetched.Shows (values.map column.type.readBack) := by
  have flat := scale_of_not_decimal plain
  cases storage : column.type.storage with
  | fixed kind =>
      have read : (values.map (fixedCell kind column.type.scale)).map (kind.read 0) =
          values.map column.type.readBack := by
        rw [List.map_map]
        apply List.map_congr_left
        intro value member
        have back := value_shown_fixedCell storage plain (kept value member)
        rw [Function.comp_apply, FixedKind.read, if_pos rfl, back]
      have shows := FixedColumn.shows_view column.name kind descriptor.digits 0
        (values.map (fixedCell kind column.type.scale))
      rw [read] at shows
      rcases seen with first | later
      · have pass := materialize_first storage laid index
        rw [flat] at pass shows
        exact ⟨_, first ▸ pass, shows⟩
      · have pass := materialize_later storage laid index
        rw [flat, FixedColumn.view_shown] at pass
        rw [flat] at shows
        exact ⟨_, later ▸ pass, shows⟩
  | boxed kind =>
      obtain ⟨list, each, materialized⟩ := materialize_boxed storage laid
      refine ⟨_, materialized current seen index, ?_⟩
      have read : (list.map kind.copied).map (fun content => content.elim .null kind.value) =
          values.map column.type.readBack := by
        clear laid materialized
        induction each with
        | nil => rfl
        | cons one many ih =>
            have first := content_boxedCell storage (kept _ List.mem_cons_self) one
            have others := ih fun value member => kept value (List.mem_cons_of_mem _ member)
            simp only [List.map_cons, first, others]
      exact read ▸ BoxedColumn.shows column.name kind (list.map kind.copied)
  | unknown => exact absurd storage (storage_ne_unknown _)

/-! ## Decimal columns -/

section Decimals

variable {digits scale : Nat} {valid : 0 < digits ∧ scale ≤ digits ∧ digits ≤ 38}

/-- With a scale the cell of a stored decimal is read as the decimal again, and NULL as NULL. -/
theorem read_decimal {stored : Value}
    (kept : (DeclaredType.decimal digits scale valid).Stores stored) (scaled : scale ≠ 0) :
    (FixedKind.integer (DeclaredType.decimalStorage digits)).read scale
      (fixedCell (.integer (DeclaredType.decimalStorage digits)) scale stored) = stored := by
  rcases decimal_of_stores kept with rfl | ⟨cell, same, other, _, laid⟩
  · simp [FixedKind.read, scaled, fixedCell, storedInteger?, Value.toInt?, FixedKind.isSentinel]
  · rw [laid, FixedKind.read, if_neg scaled, if_neg (by simpa [FixedKind.isSentinel] using other),
      same]
    rfl

/-- Without a scale the cell of a stored decimal is read as its integer, and NULL as zero. -/
theorem read_integer {whole : 0 < digits ∧ 0 ≤ digits ∧ digits ≤ 38} {stored : Value}
    (kept : (DeclaredType.decimal digits 0 whole).Stores stored) :
    (stored = .null ∧
      (FixedKind.integer (DeclaredType.decimalStorage digits)).read 0
        (fixedCell (.integer (DeclaredType.decimalStorage digits)) 0 stored) =
          .integer (DeclaredType.decimalStorage digits) (DeclaredType.decimalStorage digits).zero) ∨
    ∃ number : (DeclaredType.decimalStorage digits).Number,
      stored = .decimal ⟨number.val, 0⟩ ∧
      (FixedKind.integer (DeclaredType.decimalStorage digits)).read 0
        (fixedCell (.integer (DeclaredType.decimalStorage digits)) 0 stored) =
          .integer (DeclaredType.decimalStorage digits) number := by
  rcases decimal_of_stores kept with rfl | ⟨cell, same, other, _, laid⟩
  · refine .inl ⟨rfl, ?_⟩
    simp [FixedKind.read, FixedKind.shown, fixedCell, storedInteger?, Value.toInt?,
      FixedKind.isSentinel, FixedKind.value, FixedKind.zero]
  · refine .inr ⟨cell, same, ?_⟩
    rw [laid, FixedKind.read, if_pos rfl, FixedKind.shown,
      if_neg (by simpa [FixedKind.isSentinel] using other)]
    rfl

/-- **The first pass over a decimal column with a scale reads back every value as it is.** -/
theorem materialize_decimal (declared : column.type = .decimal digits scale valid)
    (scaled : scale ≠ 0) (laid : column.descriptor layout values = .ok descriptor)
    (kept : ∀ value ∈ values, column.type.Stores value) (index : Nat) :
    ∃ fetched, descriptor.materialize layout index = (.ok fetched, descriptor.passed layout) ∧
      fetched.Shows values ∧
      ∀ row value, values[row]? = some value → fetched.decimal row = .ok value.decimal? := by
  have storage : column.type.storage = .fixed (.integer (DeclaredType.decimalStorage digits)) := by
    rw [declared]
    rfl
  have pass := materialize_first storage laid index
  rw [show column.type.scale = scale by rw [declared]; rfl] at pass
  rw [declared] at kept
  have read : (values.map (fixedCell (.integer (DeclaredType.decimalStorage digits)) scale)).map
      ((FixedKind.integer (DeclaredType.decimalStorage digits)).read scale) = values := by
    rw [List.map_map]
    calc
      _ = values.map id :=
        List.map_congr_left fun value member => read_decimal (kept value member) scaled
      _ = values := List.map_id values
  have shows := FixedColumn.shows_view column.name (.integer (DeclaredType.decimalStorage digits))
    descriptor.digits scale
    (values.map (fixedCell (.integer (DeclaredType.decimalStorage digits)) scale))
  rw [read] at shows
  refine ⟨_, pass, shows, fun row value found => ?_⟩
  have there :
      (values.map (fixedCell (.integer (DeclaredType.decimalStorage digits)) scale))[row]? =
        some (fixedCell (.integer (DeclaredType.decimalStorage digits)) scale value) := by
    rw [List.getElem?_map, found, Option.map_some]
  rw [FixedColumn.decimal_view scaled column.name there,
    read_decimal (kept value (List.mem_of_getElem? found)) scaled]

/-- **A pass over a decimal column without a scale reads back integers.** -/
theorem materialize_integer {whole : 0 < digits ∧ 0 ≤ digits ∧ digits ≤ 38}
    (declared : column.type = .decimal digits 0 whole)
    (laid : column.descriptor layout values = .ok descriptor)
    (seen : current = descriptor ∨ current = descriptor.passed layout) (index : Nat) :
    ∃ fetched, current.materialize layout index = (.ok fetched, descriptor.passed layout) ∧
      fetched.Shows (values.map fun value =>
        (FixedKind.integer (DeclaredType.decimalStorage digits)).read 0
          (fixedCell (.integer (DeclaredType.decimalStorage digits)) 0 value)) := by
  have storage : column.type.storage = .fixed (.integer (DeclaredType.decimalStorage digits)) := by
    rw [declared]
    rfl
  have flat : column.type.scale = 0 := by rw [declared]; rfl
  have read : (values.map (fixedCell (.integer (DeclaredType.decimalStorage digits)) 0)).map
      ((FixedKind.integer (DeclaredType.decimalStorage digits)).read 0) =
        values.map fun value =>
          (FixedKind.integer (DeclaredType.decimalStorage digits)).read 0
            (fixedCell (.integer (DeclaredType.decimalStorage digits)) 0 value) := by
    rw [List.map_map]
    rfl
  have shows := FixedColumn.shows_view column.name (.integer (DeclaredType.decimalStorage digits))
    descriptor.digits 0
    (values.map (fixedCell (.integer (DeclaredType.decimalStorage digits)) 0))
  rw [read] at shows
  rcases seen with first | later
  · have pass := materialize_first storage laid index
    rw [flat] at pass
    exact ⟨_, first ▸ pass, shows⟩
  · have pass := materialize_later storage laid index
    rw [flat, FixedColumn.view_shown] at pass
    exact ⟨_, later ▸ pass, shows⟩

end Decimals

end OutputColumn

end ColumnStore
