import ColumnStore.Proofs.Column.Gathering
import ColumnStore.Proofs.Number.Rational

/-!
# Passing over the same buffers again

A pass sets the NULLs of fixed-width cells to zero, so every later pass reads what the first one
wrote. A cell that was NULL is zero then, whether or not the test takes zero for NULL, and other
cells were not NULL before: nothing is written any more (`FixedColumn.zeroed_zeroed`). Only the
mask may differ. A row is flagged again if and only if it was flagged and the test takes zero for
NULL, and a test that does not leaves no mask at all (`FixedColumn.again`).

From one column this carries over to all of them, also where a pass fails half way, and from two
passes to any number (`DescriptorShelf.first_pass_fixes_cells`).
-/

set_option autoImplicit false

namespace ColumnStore

/-! ## One column of fixed-width cells -/

/-- Whether the test of fixed-width cells takes their zero for NULL. -/
def ColumnCells.zeroIsNull : ColumnCells → Bool
  | fixed kind array => array.isNull kind.zero
  | boxed _ _ => false

namespace FixedColumn

variable {kind : FixedKind} {array : CellArray kind.Cell} {digits scale : Nat}

/-- The view of the cells that a pass left, whose view of them was this one. -/
def again (view : FixedColumn) (zeroIsNull : Bool) : FixedColumn :=
  if zeroIsNull then view else { view with nulls := none }

/-- Cells that have been set to zero stay as they are. -/
theorem zeroed_zeroed (array : CellArray kind.Cell) (cells : List kind.Cell) :
    zeroed array (zeroed array cells) = zeroed array cells := by
  unfold zeroed
  rw [List.map_map]
  refine List.map_congr_left fun cell _ => ?_
  by_cases null : array.isNull cell
  · simp [null]
  · simp [null]

/-- The rows that are NULL after a pass were NULL before, and zero is NULL. -/
theorem map_isNull_zeroed (array : CellArray kind.Cell) (cells : List kind.Cell) :
    (zeroed array cells).map array.isNull =
      cells.map fun cell => array.isNull cell && array.isNull kind.zero := by
  unfold zeroed
  rw [List.map_map]
  refine List.map_congr_left fun cell _ => ?_
  by_cases null : array.isNull cell
  · simp [null]
  · simp [null]

theorem mask_zeroed (scale : Nat) (array : CellArray kind.Cell) (cells : List kind.Cell) :
    mask scale array (zeroed array cells) =
      if array.isNull kind.zero then mask scale array cells else none := by
  unfold mask
  rw [map_isNull_zeroed]
  by_cases zero : array.isNull kind.zero
  · simp [zero]
  · simp [zero]

/-- **A pass over cells that a pass left** writes nothing, and finds the same cells. -/
theorem ofCells_again {view : FixedColumn} {passed : CellArray kind.Cell}
    (done : ofCells kind digits scale array = (.ok view, passed)) :
    ofCells kind digits scale passed = (.ok (view.again (array.isNull kind.zero)), passed) := by
  cases laid : array.storage with
  | missing count =>
      simp only [ofCells, laid] at done
      cases count with
      | zero =>
          cases done
          simp only [ofCells, laid, again, ite_self]
      | succ rows => cases done
  | buffer cells =>
      rw [ofCells_buffer digits scale laid] at done
      cases done
      rw [ofCells_buffer digits scale rfl]
      have cellsAgain : zeroed (array.withStorage (.buffer (zeroed array cells)))
          (zeroed array cells) = zeroed array cells := zeroed_zeroed array cells
      have maskAgain : mask scale (array.withStorage (.buffer (zeroed array cells)))
          (zeroed array cells) =
            if array.isNull kind.zero then mask scale array cells else none :=
        mask_zeroed scale array cells
      rw [cellsAgain, maskAgain, again]
      cases array.isNull kind.zero <;> rfl

/-- A row that a pass flags has zero in its cell, and the column has a scale. -/
theorem cell_of_isNull {view : FixedColumn} {passed : CellArray kind.Cell}
    (done : ofCells kind digits scale array = (.ok view, passed)) {row : Nat}
    (flagged : view.isNull row) :
    view.scale ≠ 0 ∧ view.cells[row]? = some view.kind.zero := by
  obtain ⟨cells, _, rfl⟩ := view_of_ofCells done
  by_cases masked : scale ≠ 0 ∧ true ∈ cells.map array.isNull
  · have flags : mask scale array cells = some (cells.map array.isNull) := if_pos masked
    rw [isNull, flags] at flagged
    dsimp only at flagged
    rw [List.getElem?_map] at flagged
    refine ⟨masked.1, ?_⟩
    show (zeroed array cells)[row]? = _
    rw [zeroed, List.getElem?_map]
    cases there : cells[row]? with
    | none =>
        rw [there] at flagged
        cases flagged
    | some cell =>
        rw [there] at flagged
        have null : array.isNull cell = true := flagged
        rw [Option.map_some, if_pos null]
  · have flags : mask scale array cells = none := if_neg masked
    rw [isNull, flags] at flagged
    cases flagged

/-- Flags after a later pass. -/
theorem isNull_again (view : FixedColumn) (zeroIsNull : Bool) (row : Nat) :
    (view.again zeroIsNull).isNull row = (view.isNull row && zeroIsNull) := by
  cases zeroIsNull with
  | true => rw [Bool.and_true, again, if_pos rfl]
  | false =>
      rw [Bool.and_false]
      rfl

/-- The zero of a fixed-width type stands for the number zero. -/
theorem exists_decimalOf_zero (view : FixedColumn) :
    ∃ number, view.decimalOf false view.kind.zero = some number ∧ number.toRat = 0 := by
  obtain ⟨kind, cells, digits, scale, nulls⟩ := view
  have unscaled : (Decimal.fromUnscaled 0 scale).toRat = 0 := by
    rw [Decimal.toRat_fromUnscaled, Int.cast_zero, zero_div]
  have plain : Decimal.toRat ⟨0, 0⟩ = 0 := Decimal.toRat_eq_zero_iff.2 rfl
  have single :
      ((FixedKind.value .float (FixedKind.zero .float)).toDouble?).bind Binary.toDecimal? =
        some ⟨0, 0⟩ := by decide
  have double :
      ((FixedKind.value .double (FixedKind.zero .double)).toDouble?).bind Binary.toDecimal? =
        some ⟨0, 0⟩ := by decide
  cases kind with
  | bool => exact ⟨_, rfl, unscaled⟩
  | integer kind => exact ⟨_, rfl, unscaled⟩
  | float => exact ⟨⟨0, 0⟩, single, plain⟩
  | double => exact ⟨⟨0, 0⟩, double, plain⟩

end FixedColumn

/-! ## One column -/

/-- The column of the cells that a pass left, which gave this one. -/
def Column.again (column : Column) (zeroIsNull : Bool) : Column :=
  { column with
    data :=
      match column.data with
      | .fixed view => .fixed (view.again zeroIsNull)
      | .boxed copy => .boxed copy }

/-- A row is not flagged and is read as zero, in an integer column as the decimal zero of its
scale. -/
structure Column.ReadsZero (column : Column) (view : FixedColumn) (row : Nat) : Prop where
  isNull_eq : column.isNull row = .ok false
  decimal_eq : ∃ number, column.decimal row = .ok (some number) ∧ number.toRat = 0
  value_eq : view.kind ≠ .float → view.kind ≠ .double →
    column.value row = .ok (.decimal (Decimal.fromUnscaled 0 view.scale))

/-- What a later pass makes of the buffer of a column. The column has the same name, the same type,
and in the same rows the same cells, precision and scale, or boxed values. A row is flagged if and
only if it was flagged and the test takes zero for NULL. If it does not, there is no mask, and rows
that were flagged are read as zero. -/
structure Column.Reread (first later : Column) (zeroIsNull : Bool) : Prop where
  name_eq : later.name = first.name
  type_eq : later.type = first.type
  boxed : ∀ copy, first.data = .boxed copy → later.data = .boxed copy
  fixed : ∀ view, first.data = .fixed view → ∃ nulls, later.data = .fixed { view with nulls } ∧
    (∀ row, FixedColumn.isNull { view with nulls } row = (view.isNull row && zeroIsNull)) ∧
    (zeroIsNull = false → nulls = none ∧ ∀ row, view.isNull row → later.ReadsZero view row)

/-- A cell with zero that is not flagged is read as that. -/
theorem Column.readsZero (name : String) (view : FixedColumn) {row : Nat}
    (there : view.cells[row]? = some view.kind.zero) (scaled : view.scale ≠ 0)
    (plain : view.isNull row = false) : Column.ReadsZero ⟨name, .fixed view⟩ view row := by
  have visible : row < view.cells.length := (List.getElem?_eq_some_iff.1 there).1
  refine ⟨?_, ?_, fun single double => ?_⟩
  · show (if row < view.cells.length then _ else _) = _
    rw [if_pos visible]
    exact congrArg Except.ok plain
  · obtain ⟨number, zero, same⟩ := view.exists_decimalOf_zero
    refine ⟨number, ?_, same⟩
    simp only [decimal, there, plain, zero]
  · simp only [value, there, plain]
    have decimal : view.isDecimal = true := decide_eq_true scaled
    obtain ⟨kind, cells, digits, scale, nulls⟩ := view
    simp only [FixedColumn.valueOf, decimal, if_true, Bool.false_eq_true, if_false]
    cases kind with
    | bool => rfl
    | integer kind => rfl
    | float => exact absurd rfl single
    | double => exact absurd rfl double

theorem Column.reread_of_fixed {kind : FixedKind} {array passed : CellArray kind.Cell}
    {digits scale : Nat} {view : FixedColumn} (name : String)
    (done : FixedColumn.ofCells kind digits scale array = (.ok view, passed)) :
    Column.Reread ⟨name, .fixed view⟩ (Column.again ⟨name, .fixed view⟩ (array.isNull kind.zero))
      (array.isNull kind.zero) := by
  refine ⟨rfl, ?_, nofun, ?_⟩
  · cases array.isNull kind.zero <;> rfl
  · intro same viewed
    cases viewed
    refine ⟨(view.again (array.isNull kind.zero)).nulls, ?_, ?_, ?_⟩
    · cases array.isNull kind.zero <;> rfl
    · intro row
      rw [← FixedColumn.isNull_again]
      cases array.isNull kind.zero <;> rfl
    · intro present
      rw [present]
      refine ⟨rfl, fun row flagged => ?_⟩
      obtain ⟨scaled, there⟩ := FixedColumn.cell_of_isNull done flagged
      have zero := Column.readsZero name { view with nulls := none } there scaled rfl
      exact ⟨zero.isNull_eq, zero.decimal_eq, zero.value_eq⟩

namespace Descriptor

variable {descriptor : Descriptor} {layout : TagLayout} {index : Nat} {first : Column}

/-- **A later pass** leaves the descriptor as the first pass did, and answers as that one. -/
theorem materialize_passed (descriptor : Descriptor) (layout : TagLayout) (index : Nat) :
    (descriptor.passed layout).materialize layout index =
      ((·.again descriptor.cells.zeroIsNull) <$> (descriptor.materialize layout index).1,
        descriptor.passed layout) := by
  cases pass : (descriptor.materialize layout index).1 with
  | error error =>
      have unchanged := passed_of_refuses (materialize_eq_error.1 pass)
      have after := materialize_snd_eq_passed descriptor layout index
      rw [unchanged] at after
      rw [unchanged]
      exact Prod.ext pass after
  | ok column =>
      have leaves := materialize_snd_eq_passed descriptor layout index
      rcases materialize_cases pass with
        ⟨kind, array, view, after, named, laid, done, rfl, left⟩ | ⟨kind, array, _, laid, rfl, left⟩
      · have once : descriptor.passed layout = { descriptor with cells := .fixed kind after } :=
          leaves.symm.trans left
        have again := FixedColumn.ofCells_again done
        have later := @materialize_of_fixed { descriptor with cells := .fixed kind after } layout
          kind after named rfl index
        rw [once, later, laid, again]
        rfl
      · have once : descriptor.passed layout = descriptor := leaves.symm.trans left
        rw [once, laid]
        exact Prod.ext pass left

theorem passed_passed (descriptor : Descriptor) (layout : TagLayout) :
    (descriptor.passed layout).passed layout = descriptor.passed layout := by
  have twice := congrArg Prod.snd (descriptor.materialize_passed layout 0)
  rw [materialize_snd_eq_passed] at twice
  exact twice

/-- The column of a later pass over a descriptor. -/
theorem reread_again (pass : (descriptor.materialize layout index).1 = .ok first) :
    first.Reread (first.again descriptor.cells.zeroIsNull) descriptor.cells.zeroIsNull := by
  rcases materialize_cases pass with
    ⟨kind, array, view, after, _, laid, done, rfl, _⟩ | ⟨kind, array, _, laid, rfl, _⟩
  · rw [laid]
    exact Column.reread_of_fixed descriptor.label done
  · exact ⟨rfl, rfl, fun _ same => same, nofun⟩

end Descriptor

/-! ## All columns -/

/-- What a later pass makes of the buffers of all columns: as many columns, with the number of rows
they had, and each of them reread. -/
structure Columns.Reread (descriptors : List Descriptor) (first later : Columns) : Prop where
  rowCount_eq : later.rowCount = first.rowCount
  length_eq : later.length = first.length
  each : ∀ index column, first.get? index = some column →
    ∃ descriptor other, descriptors[index]? = some descriptor ∧ later.get? index = some other ∧
      column.Reread other descriptor.cells.zeroIsNull

namespace DescriptorShelf

variable {layout : TagLayout} {refusal : Nat → Option Error} {descriptors : List Descriptor}
  {index first count : Nat} {fetched : Column}

theorem passedBelow_passedBelow (layout : TagLayout) (first : Nat)
    (descriptors : List Descriptor) :
    passedBelow layout first (passedBelow layout first descriptors) =
      passedBelow layout first descriptors := by
  refine List.ext_getElem? fun index => ?_
  rw [getElem?_passedBelow, getElem?_passedBelow, Option.map_map]
  by_cases earlier : index < first
  · simp only [earlier, if_true, Function.comp_def, Descriptor.passed_passed]
  · simp only [earlier, if_false, Function.comp_def]

/-- What is fetched at an index depends on the descriptor there alone. -/
theorem alone_congr {others : List Descriptor} (same : others[index]? = descriptors[index]?) :
    alone layout refusal others index = alone layout refusal descriptors index := by
  unfold alone column
  dsimp only
  rw [same]
  cases refusal index with
  | some error => rfl
  | none => cases descriptors[index]? <;> rfl

theorem alone_passedBelow_of_le (behind : first ≤ index) :
    alone layout refusal (passedBelow layout first descriptors) index =
      alone layout refusal descriptors index := by
  refine alone_congr ?_
  rw [getElem?_passedBelow]
  simp only [Nat.not_lt.2 behind, if_false, Option.map_id']

/-- A column in front of the first failure is reread. -/
theorem exists_reread (earlier : index < first)
    (fetches : Fetches layout refusal descriptors index fetched) :
    ∃ descriptor other, descriptors[index]? = some descriptor ∧
      Fetches layout refusal (passedBelow layout first descriptors) index other ∧
      fetched.Reread other descriptor.cells.zeroIsNull := by
  obtain ⟨accepted, descriptor, there, materialized⟩ := fetches
  refine ⟨descriptor, fetched.again descriptor.cells.zeroIsNull, there, ⟨accepted, ?_⟩,
    Descriptor.reread_again materialized⟩
  refine ⟨descriptor.passed layout, ?_, ?_⟩
  · rw [getElem?_passedBelow, there, Option.map_some, if_pos earlier]
  · rw [Descriptor.materialize_passed, materialized]
    rfl

/-- A later pass fails where the first one did. -/
theorem firstFailure_passedBelow
    (stops : Except.FirstFailure (alone layout refusal descriptors) count first) :
    Except.FirstFailure (alone layout refusal (passedBelow layout first descriptors)) count
      first := by
  refine ⟨stops.le, fun index earlier => ?_, fun less => ?_⟩
  · obtain ⟨fetched, answered⟩ := stops.before index earlier
    obtain ⟨_, other, _, again, _⟩ := exists_reread earlier (alone_eq_ok.1 answered)
    exact ⟨other, alone_eq_ok.2 again⟩
  · rw [alone_passedBelow_of_le (Nat.le_refl first)]
    exact stops.fails less

/-- The outcome of a pass and of one over what it left. -/
theorem agree_of_firstFailure (rowCount : Nat)
    (stops : Except.FirstFailure (alone layout refusal descriptors) descriptors.length first) :
    Except.Agree (Columns.Reread descriptors) (materialize layout refusal rowCount descriptors).1
      (materialize layout refusal rowCount (passedBelow layout first descriptors)).1 := by
  have length : (passedBelow layout first descriptors).length = descriptors.length :=
    List.length_mapIdx
  obtain ⟨outcome, run, failed, succeeded⟩ := gather_of_firstFailure rowCount stops
  obtain ⟨again, rerun, failedAgain, succeededAgain⟩ :=
    gather_of_firstFailure rowCount (firstFailure_passedBelow stops)
  have answer : (materialize layout refusal rowCount descriptors).1 = outcome :=
    congrArg Prod.fst run
  have answerAgain :
      (materialize layout refusal rowCount (passedBelow layout first descriptors)).1 = again := by
    unfold materialize
    rw [length]
    exact congrArg Prod.fst rerun
  rw [answer, answerAgain]
  rcases Nat.lt_or_eq_of_le stops.le with less | all
  · obtain ⟨error, there⟩ := stops.fails less
    have thereAgain := there
    rw [← alone_passedBelow_of_le (Nat.le_refl first)] at thereAgain
    rw [failed error less there, failedAgain error less thereAgain]
    exact .error error
  · obtain ⟨columns, rfl, columnCount, known⟩ := succeeded all
    obtain ⟨others, rfl, otherCount, otherKnown⟩ := succeededAgain all
    refine .ok ⟨rfl, otherCount.trans columnCount.symm, fun index column there => ?_⟩
    have inside : index < columns.length := (List.getElem?_eq_some_iff.1 there).1
    have earlier : index < first := by omega
    have otherThere : others[index]? = some others[index] := List.getElem?_eq_getElem (by omega)
    obtain ⟨descriptor, other, found, again, reread⟩ :=
      exists_reread earlier (alone_eq_ok.1 (known index column there))
    have same := otherKnown index _ otherThere
    rw [alone_eq_ok.2 again] at same
    cases same
    exact ⟨descriptor, _, found, otherThere, reread⟩

/-- The passes over the same descriptors, the first of which has the number zero. -/
def pass (layout : TagLayout) (refusal : Nat → Option Error) (rowCount : Nat)
    (descriptors : List Descriptor) : Nat → Except Error Columns × DescriptorShelf
  | 0 => materialize layout refusal rowCount descriptors
  | number + 1 =>
      materialize layout refusal rowCount
        (pass layout refusal rowCount descriptors number).2.descriptors

theorem materialize_snd (rowCount : Nat)
    (stops : Except.FirstFailure (alone layout refusal descriptors) descriptors.length first) :
    (materialize layout refusal rowCount descriptors).2 =
      ⟨passedBelow layout first descriptors,
        (List.range (min (first + 1) descriptors.length)).reverse⟩ := by
  obtain ⟨outcome, run, _⟩ := gather_of_firstFailure rowCount stops
  exact congrArg Prod.snd run

/-- Every pass leaves what the first one left. -/
theorem pass_snd (rowCount number : Nat)
    (stops : Except.FirstFailure (alone layout refusal descriptors) descriptors.length first) :
    (pass layout refusal rowCount descriptors number).2 =
      ⟨passedBelow layout first descriptors,
        (List.range (min (first + 1) descriptors.length)).reverse⟩ := by
  induction number with
  | zero => exact materialize_snd rowCount stops
  | succ number ih =>
      have length : (passedBelow layout first descriptors).length = descriptors.length :=
        List.length_mapIdx
      have stopsAgain := firstFailure_passedBelow stops
      rw [← length] at stopsAgain
      rw [pass, ih, materialize_snd rowCount stopsAgain, passedBelow_passedBelow, length]

/-- **The first pass fixes the cells.** Every later pass over the same descriptors asks for the same
indexes and leaves the same cells, and it succeeds or fails as the first one. If it succeeds, every
column is reread: it differs from that of the first pass at most in its mask. -/
theorem first_pass_fixes_cells (layout : TagLayout) (refusal : Nat → Option Error)
    (rowCount : Nat) (descriptors : List Descriptor) (later : Nat) :
    (pass layout refusal rowCount descriptors (later + 1)).2 =
        (pass layout refusal rowCount descriptors 0).2 ∧
      Except.Agree (Columns.Reread descriptors) (pass layout refusal rowCount descriptors 0).1
        (pass layout refusal rowCount descriptors (later + 1)).1 := by
  obtain ⟨first, stops⟩ :=
    Except.exists_firstFailure (alone layout refusal descriptors) descriptors.length
  constructor
  · rw [pass_snd rowCount (later + 1) stops, pass_snd rowCount 0 stops]
  · have agree := agree_of_firstFailure rowCount stops
    rw [pass, pass, pass_snd rowCount later stops]
    exact agree

end DescriptorShelf

end ColumnStore
