import ColumnStore.Client.Parameter
import ColumnStore.Proofs.Column.ReadBack
import ColumnStore.Proofs.Column.Sweep

/-!
# What is read can be bound again

A value that is read from a column can be bound to a parameter of the type and the scale of the
column, and is bound as the cell that it was read from, in whatever way the column was laid out
(`Descriptor.rebinds_of_materialize`). Cells that were NULL and are read as zero have become zero
in the buffer as well.

Two things get lost in reading, and such cells are left out (`ColumnCells.Regular`): a truth value
can have other cells than zero and one, and a text can have octets that are not valid.
-/

set_option autoImplicit false

namespace ColumnStore

/-! ## The cells of a column as they are bound -/

/-- The cell in a row of a buffer. -/
def Storage.cell? {α : Type} (storage : Storage α) (row : Nat) : Option α :=
  match storage with
  | .missing _ => none
  | .buffer cells => cells[row]?

/-- The datum with the content of a cell. A blob without octets has the content of an empty one. -/
def BoxedKind.datum? : (kind : BoxedKind) → kind.Cell → Option NativeDatum
  | .str, cell => cell.map .text
  | .blob, cell => cell.content?.map fun content => .blob (.bytes content)
  | .date, cell => some (.date cell)
  | .time, cell => some (.time cell)
  | .timestamp, cell => some (.timestamp cell)

/-- The datum with the content of the cell in a row. -/
def ColumnCells.datum? (cells : ColumnCells) (row : Nat) : Option NativeDatum :=
  match cells with
  | fixed kind array => (array.storage.cell? row).map (.fixed kind)
  | boxed kind array => (array.storage.cell? row).bind kind.datum?

/-- The scale that is known of a column. -/
def ColumnData.scale : ColumnData → Nat
  | fixed column => column.scale
  | boxed _ => 0

/-- A truth value is zero or one, and has no scale. -/
def FixedKind.Regular (scale : Nat) : (kind : FixedKind) → kind.Cell → Prop
  | .bool, cell => scale = 0 ∧ (cell.val = 0 ∨ cell.val = 1)
  | _, _ => True

/-- A text is valid. -/
def BoxedKind.Regular : (kind : BoxedKind) → kind.Cell → Prop
  | .str, some native => ∃ text, native.bytes = Utf8.ofString text
  | _, _ => True

/-- All cells are regular. -/
def ColumnCells.Regular (scale : Nat) : ColumnCells → Prop
  | fixed kind array => ∀ row cell, array.storage.cell? row = some cell → kind.Regular scale cell
  | boxed kind array => ∀ row cell, array.storage.cell? row = some cell → kind.Regular cell

/-! ## Fixed-width cells -/

theorem FixedKind.Regular.zero {scale : Nat} {kind : FixedKind} {cell : kind.Cell}
    (regular : kind.Regular scale cell) : kind.Regular scale kind.zero := by
  cases kind with
  | bool => exact ⟨regular.1, .inl rfl⟩
  | _ => trivial

namespace FixedColumn

/-- What is read from a fixed-width cell is bound as the cell. -/
theorem toDatum_valueOf {column : FixedColumn} {cell : column.kind.Cell}
    (regular : column.kind.Regular column.scale cell) :
    Parameter.toDatum (.fixed column.kind) column.scale (column.valueOf false cell) =
      .ok (.fixed column.kind cell) := by
  obtain ⟨kind, cells, digits, scale, nulls⟩ := column
  cases kind with
  | bool =>
      obtain ⟨rfl, truth⟩ := regular
      obtain ⟨number, bounds⟩ := cell
      rcases truth with rfl | rfl <;> rfl
  | integer kind =>
      have whole : Parameter.toInteger? scale (valueOf ⟨.integer kind, cells, digits, scale, nulls⟩
          false cell) = some cell.val := by
        by_cases flat : scale = 0
        · subst flat
          rfl
        · have read : valueOf ⟨.integer kind, cells, digits, scale, nulls⟩ false cell =
              .decimal (Decimal.fromUnscaled cell.val scale) := by
            simp [valueOf, isDecimal, flat, FixedKind.value, Value.toInt?]
          have fits : (Decimal.fromUnscaled cell.val scale).toUnscaled? scale =
              some (IntegerKind.widest cell) :=
            Decimal.toUnscaled?_fromUnscaled (IntegerKind.widest cell) scale
          rw [read, Parameter.toInteger?, if_pos flat]
          simp only [Parameter.toDecimal?, Option.bind_some, fits, Option.map_some]
          rfl
      show Parameter.toIntegerDatum kind scale _ = _
      simp only [Parameter.toIntegerDatum, whole, IntegerKind.ofInt?_val]
  | float =>
      have read : valueOf ⟨.float, cells, digits, scale, nulls⟩ false cell = .float cell := by
        simp [valueOf, isDecimal, FixedKind.value, Value.toInt?]
      rw [read]
      rfl
  | double =>
      have read : valueOf ⟨.double, cells, digits, scale, nulls⟩ false cell = .double cell := by
        simp [valueOf, isDecimal, FixedKind.value, Value.toInt?]
      rw [read]
      rfl

/-- A view is of the cells in the buffer afterwards, each of which was there or is zero. -/
theorem ofCells_eq_ok {kind : FixedKind} {digits scale : Nat}
    {array passed : CellArray kind.Cell} {view : FixedColumn}
    (done : ofCells kind digits scale array = (.ok view, passed)) :
    ∃ cells nulls, view = ⟨kind, cells, digits, scale, nulls⟩ ∧
      (∀ row, passed.storage.cell? row = cells[row]?) ∧
      ∀ row cell, cells[row]? = some cell →
        ∃ original, array.storage.cell? row = some original ∧
          (cell = original ∨ cell = kind.zero) := by
  cases laid : array.storage with
  | missing count =>
      simp only [ofCells, laid] at done
      cases count with
      | zero =>
          cases done
          refine ⟨[], none, rfl, fun row => by rw [laid]; rfl, fun row cell there => ?_⟩
          cases there
      | succ rows => cases done
  | buffer cells =>
      rw [ofCells_buffer digits scale laid] at done
      cases done
      refine ⟨_, _, rfl, fun row => rfl, fun row cell there => ?_⟩
      rw [zeroed, List.getElem?_map] at there
      obtain ⟨original, found, rfl⟩ := Option.map_eq_some_iff.1 there
      refine ⟨original, found, ?_⟩
      split
      · exact .inr rfl
      · exact .inl rfl

end FixedColumn

/-! ## Boxed cells -/

namespace BoxedKind

/-- What is read from a boxed cell is bound as its content. -/
theorem toDatum_value {kind : BoxedKind} {cell : kind.Cell} {content : kind.Content}
    (read : kind.content? cell = some content) (regular : kind.Regular cell) :
    ∃ datum, kind.datum? cell = some datum ∧
      Parameter.toDatum (.boxed kind) 0 (kind.value content) = .ok datum := by
  cases kind with
  | str =>
      obtain ⟨native, rfl, rfl⟩ := Option.map_eq_some_iff.1 read
      obtain ⟨text, valid⟩ := regular
      refine ⟨.text native, rfl, ?_⟩
      show Parameter.toPlainDatum .str (.str native.toString) = _
      simp only [Parameter.toPlainDatum, NativeText.ofString?_toString valid]
  | blob =>
      refine ⟨.blob (.bytes content), ?_, rfl⟩
      exact congrArg (Option.map _) read
  | date =>
      have laid : content.toCell = .ok cell := DateCell.toCell_of_toDate? read
      exact ⟨.date cell, rfl, congrArg (NativeDatum.date <$> ·) laid⟩
  | time =>
      have laid : content.toCell = cell := TimeCell.toCell_of_toTime? read
      exact ⟨.time cell, rfl, congrArg (fun cell => Except.ok (NativeDatum.time cell)) laid⟩
  | timestamp =>
      have laid : content.toCell = .ok cell := TimestampCell.toCell_of_toTimestamp? read
      exact ⟨.timestamp cell, rfl, congrArg (NativeDatum.timestamp <$> ·) laid⟩

end BoxedKind

/-- What was copied into a row is the content of the cell in the row. -/
theorem BoxedColumn.exists_ofCells (kind : BoxedKind) (array : CellArray kind.Cell) :
    ∃ rows, ofCells kind array = ⟨kind, rows⟩ ∧
      ∀ row content, rows[row]? = some (some content) →
        ∃ cell, array.storage.cell? row = some cell ∧ kind.content? cell = some content := by
  unfold ofCells
  split
  · next count missing =>
      refine ⟨_, rfl, fun row content there => ?_⟩
      have member := List.mem_of_getElem? there
      cases List.eq_of_mem_replicate member
  · next cells laid =>
      refine ⟨_, rfl, fun row content there => ?_⟩
      rw [List.getElem?_map] at there
      obtain ⟨cell, found, copied⟩ := Option.map_eq_some_iff.1 there
      rw [laid]
      refine ⟨cell, found, ?_⟩
      split at copied
      · cases copied
      · exact copied

/-! ## Columns -/

/-- A column that is materialized is the view of fixed-width cells, or the copy of boxed ones. -/
theorem Descriptor.materialize_eq_ok {descriptor after : Descriptor} {layout : TagLayout}
    {index : Nat} {column : Column}
    (done : descriptor.materialize layout index = (.ok column, after)) :
    (∃ kind array view passed, descriptor.cells = .fixed kind array ∧
      FixedColumn.ofCells kind descriptor.digits descriptor.scale array = (.ok view, passed) ∧
      column.data = .fixed view ∧ after.cells = .fixed kind passed) ∨
    ∃ kind array, descriptor.cells = .boxed kind array ∧
      column.data = .boxed (BoxedColumn.ofCells kind array) ∧ after.cells = .boxed kind array := by
  have leaves : after = (descriptor.materialize layout index).2 := by rw [done]
  rcases materialize_cases (congrArg Prod.fst done) with
    ⟨kind, array, view, passed, _, laid, filled, rfl, left⟩ | ⟨kind, array, _, laid, rfl, left⟩
  · exact .inl ⟨kind, array, view, passed, laid, filled, rfl, by rw [leaves, left]⟩
  · exact .inr ⟨kind, array, laid, rfl, by rw [leaves, left, laid]⟩

/-- A value of a fixed-width column that is not NULL is that of its cell. -/
theorem Column.value_fixed {column : Column} {view : FixedColumn} (data : column.data = .fixed view)
    {row : Nat} {value : Value} (read : column.value row = .ok value) (present : value ≠ .null) :
    ∃ cell, view.cells[row]? = some cell ∧ value = view.valueOf false cell := by
  rw [Column.value, data] at read
  dsimp only at read
  split at read
  · next cell there =>
      refine ⟨cell, there, ?_⟩
      cases masked : view.isNull row with
      | true =>
          rw [masked] at read
          cases read
          exact absurd rfl present
      | false =>
          rw [masked] at read
          exact (Except.ok.inj read).symm
  · cases read

/-- A value of a boxed column that is not NULL was copied. -/
theorem Column.value_boxed {column : Column} {copy : BoxedColumn} (data : column.data = .boxed copy)
    {row : Nat} {value : Value} (read : column.value row = .ok value) (present : value ≠ .null) :
    ∃ content, copy.rows[row]? = some (some content) ∧ value = copy.kind.value content := by
  rw [Column.value, data] at read
  dsimp only at read
  split at read
  · next content there =>
      cases content with
      | none =>
          cases read
          exact absurd rfl present
      | some content => exact ⟨content, there, (Except.ok.inj read).symm⟩
  · cases read

/-- **A value that is read from a column is bound as the cell that it was read from.** -/
theorem Descriptor.rebinds_of_materialize {descriptor after : Descriptor} {layout : TagLayout}
    {index : Nat} {column : Column}
    (done : descriptor.materialize layout index = (.ok column, after))
    (regular : descriptor.cells.Regular descriptor.scale) {row : Nat} {value : Value}
    (read : column.value row = .ok value) (present : value ≠ .null) :
    ∃ datum, after.cells.datum? row = some datum ∧
      Parameter.toDatum column.type column.data.scale value = .ok datum := by
  rcases materialize_eq_ok done with
    ⟨kind, array, view, passed, laid, filled, data, cells⟩ | ⟨kind, array, laid, data, cells⟩
  · obtain ⟨list, nulls, rfl, shown, origin⟩ := FixedColumn.ofCells_eq_ok filled
    obtain ⟨cell, there, rfl⟩ := column.value_fixed data read present
    obtain ⟨original, found, same⟩ := origin row cell there
    rw [laid] at regular
    -- a cell that was set to zero is as regular as what it held
    have known : kind.Regular descriptor.scale cell := by
      rcases same with rfl | rfl
      · exact regular row _ found
      · exact (regular row original found).zero
    refine ⟨.fixed kind cell, ?_, ?_⟩
    · rw [cells]
      show (passed.storage.cell? row).map (NativeDatum.fixed kind) = _
      rw [shown]
      exact congrArg (Option.map (NativeDatum.fixed kind)) there
    · rw [Column.type, data]
      exact FixedColumn.toDatum_valueOf known
  · obtain ⟨rows, copied, origin⟩ := BoxedColumn.exists_ofCells kind array
    rw [copied] at data
    obtain ⟨content, there, rfl⟩ := column.value_boxed data read present
    obtain ⟨cell, found, held⟩ := origin row content there
    rw [laid] at regular
    obtain ⟨datum, same, bound⟩ := BoxedKind.toDatum_value held (regular row cell found)
    refine ⟨datum, ?_, ?_⟩
    · rw [cells]
      show (array.storage.cell? row).bind kind.datum? = _
      rw [found]
      exact same
    · rw [Column.type, data]
      exact bound

/-- A column with NULL, and with a text of one character. -/
def accented : Descriptor :=
  ⟨9, none, 0, 0, .boxed .str (.ofBoxed .str [none, some ⟨[0xC3, 0xA9], by decide⟩])⟩

/-- The text is bound as its two octets. -/
theorem Descriptor.rebinds_accented : ∃ column after,
    accented.materialize .default 0 = (.ok column, after) ∧
    accented.cells.Regular accented.scale ∧ column.value 1 = .ok (.str "é") ∧
    ∃ datum, after.cells.datum? 1 = some datum ∧
      Parameter.toDatum column.type column.data.scale (.str "é") = .ok datum := by
  have regular : accented.cells.Regular accented.scale := by
    intro row cell there
    have member : cell ∈ [none, some ⟨[0xC3, 0xA9], by decide⟩] := List.mem_of_getElem? there
    rcases List.mem_pair.1 member with rfl | rfl
    · trivial
    · exact ⟨"é", by decide⟩
  obtain ⟨column, after, done, read⟩ : ∃ column after,
      accented.materialize .default 0 = (.ok column, after) ∧
      column.value 1 = .ok (.str "é") := ⟨_, _, rfl, rfl⟩
  exact ⟨column, after, done, regular, read, rebinds_of_materialize done regular read nofun⟩

end ColumnStore
