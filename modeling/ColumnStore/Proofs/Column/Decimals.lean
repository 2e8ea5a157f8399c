import ColumnStore.Column
import ColumnStore.Proofs.Number.Exact

/-!
# The decimal of a cell

A cell of a fixed-width column stands for a number (`FixedKind.number?`): a truth value or an
integer counts units of the last place of the column's scale, and a floating point cell is the
number of its pattern, whatever the scale. `Column.decimal` and `Column.value` decode the cell by
ways of their own. What the first answers is the number itself, not one rounded to it, and of a
cell that counts units both answer with one decimal wherever the scale is not zero.

No decimal is answered for a flagged row, and none for a floating point cell that holds no finite
number, although no flag says that the row is NULL.

Main result: `Column.decimal_tells_number`.
-/

set_option autoImplicit false

namespace ColumnStore

namespace FixedKind

/-- Whether cells of the kind count units of the last place. -/
def countsUnits : FixedKind → Bool
  | .bool | .integer _ => true
  | .float | .double => false

/-- The number a cell stands for in a column of the scale, if it is a finite one. -/
def number? : (kind : FixedKind) → Nat → kind.Cell → Option ℚ
  | .bool, scale, cell => some ((if cell.val ≠ 0 then 1 else 0) / 10 ^ scale)
  | .integer _, scale, cell => some (cell.val / 10 ^ scale)
  | .float, _, cell => if cell.isFinite then some cell.toRat else none
  | .double, _, cell => if cell.isFinite then some cell.toRat else none

/-- A cell that counts units has a number. -/
theorem number?_ne_none {kind : FixedKind} (units : kind.countsUnits) (scale : Nat)
    (cell : kind.Cell) : kind.number? scale cell ≠ none := by
  cases kind with
  | bool | integer _ => exact Option.some_ne_none _
  | float | double => cases units

/-- The units that a cell of such a kind counts. -/
theorem toInt?_value {kind : FixedKind} (units : kind.countsUnits) (cell : kind.Cell) :
    ∃ unscaled, (kind.value cell).toInt? = some unscaled := by
  cases kind with
  | bool | integer _ => exact ⟨_, rfl⟩
  | float | double => cases units

end FixedKind

namespace FixedColumn

variable {view : FixedColumn}

@[simp]
theorem decimalOf_masked (cell : view.kind.Cell) : view.decimalOf true cell = none :=
  rfl

/-- A cell that no flag hides is answered with its own number, or not at all. -/
theorem toRat_decimalOf (view : FixedColumn) (cell : view.kind.Cell) :
    (view.decimalOf false cell).map Decimal.toRat = view.kind.number? view.scale cell := by
  obtain ⟨kind, cells, precision, scale, nulls⟩ := view
  cases kind with
  | bool =>
    show some (Decimal.fromUnscaled _ scale).toRat = _
    simp only [FixedKind.number?, Decimal.toRat_fromUnscaled, decide_eq_true_eq]
    split_ifs <;> norm_num
  | integer kind =>
    show some (Decimal.fromUnscaled _ scale).toRat = _
    rw [Decimal.toRat_fromUnscaled]
    rfl
  | float =>
    show (Binary.toDecimal? (cell.convert .double)).map Decimal.toRat = if cell.isFinite then _ else _
    cases finite : cell.isFinite with
    | true =>
      have still := Binary.isFinite_convert_double cell
      obtain ⟨decimal, told, exact⟩ := Binary.toDecimal?_of_isFinite (still.trans finite)
      rw [told, Option.map_some, exact, Binary.toRat_convert_double finite, if_pos rfl]
    | false =>
      have still := Binary.isFinite_convert_double cell
      rw [Binary.toDecimal?_of_not_finite (still.trans finite)]
      rfl
  | double =>
    show (Binary.toDecimal? cell).map Decimal.toRat = if cell.isFinite then _ else _
    cases finite : cell.isFinite with
    | true =>
      obtain ⟨decimal, told, exact⟩ := Binary.toDecimal?_of_isFinite finite
      rw [told, Option.map_some, exact, if_pos rfl]
    | false =>
      rw [Binary.toDecimal?_of_not_finite finite]
      rfl

/-- In a column of decimals both ways of decoding a cell that counts units meet. -/
theorem valueOf_of_decimalOf (units : view.kind.countsUnits) (scaled : view.scale ≠ 0)
    {cell : view.kind.Cell} {decimal : Decimal} (told : view.decimalOf false cell = some decimal) :
    view.valueOf false cell = .decimal decimal := by
  obtain ⟨unscaled, counted⟩ := FixedKind.toInt?_value units cell
  have scaled : view.isDecimal := by simpa [isDecimal] using scaled
  simp only [decimalOf, counted, Bool.false_eq_true, if_false, Option.some.injEq] at told
  simp [valueOf, scaled, counted, told]

end FixedColumn

namespace Column

/-! ## Rows in range -/

variable {name : String} {view : FixedColumn} {row : Nat}

theorem isNull_of_lt (inside : row < view.cells.length) :
    (Column.mk name (.fixed view)).isNull row = .ok (view.isNull row) :=
  if_pos inside

theorem decimal_of_lt (inside : row < view.cells.length) :
    (Column.mk name (.fixed view)).decimal row =
      .ok (view.decimalOf (view.isNull row) view.cells[row]) := by
  simp [decimal, inside]

theorem value_of_lt (inside : row < view.cells.length) :
    (Column.mk name (.fixed view)).value row =
      .ok (view.valueOf (view.isNull row) view.cells[row]) := by
  simp [value, inside]

/-! ## What is told of a row -/

/-- **The decimal of a row is the number its cell stands for.** A row in range is never refused.
It has no decimal if it is flagged as NULL, and also if its cell stands for no finite number;
otherwise the decimal answered stands for the number of the cell. Of a cell that counts units at a
scale the value is that decimal as well. -/
theorem decimal_tells_number (name : String) (view : FixedColumn) (row : Nat)
    (inside : row < view.cells.length) :
    let column : Column := ⟨name, .fixed view⟩
    let number := view.kind.number? view.scale view.cells[row]
    ∃ masked answer,
      column.isNull row = .ok masked ∧ column.decimal row = .ok answer ∧
      (answer = none ↔ masked = true ∨ number = none) ∧
      (∀ decimal, answer = some decimal → number = some decimal.toRat) ∧
      (view.kind.countsUnits → (answer = none ↔ masked = true) ∧
        (view.scale ≠ 0 → ∀ decimal, answer = some decimal →
          column.value row = .ok (.decimal decimal))) := by
  intro column number
  refine ⟨_, _, isNull_of_lt inside, decimal_of_lt inside, ?_⟩
  rw [value_of_lt inside]
  cases masked : view.isNull row with
  | true => simp
  | false =>
    have told : (view.decimalOf false view.cells[row]).map Decimal.toRat = number :=
      view.toRat_decimalOf view.cells[row]
    refine ⟨?_, ?_, ?_⟩
    · rw [← told]
      simp
    · intro decimal answered
      rw [← told, answered, Option.map_some]
    · intro units
      have counted : number ≠ none := FixedKind.number?_ne_none units view.scale view.cells[row]
      refine ⟨?_, ?_⟩
      · rw [← told] at counted
        simpa using counted
      · intro scaled decimal answered
        rw [FixedColumn.valueOf_of_decimalOf units scaled answered]

/-- A negative amount below one unit, behind a row that is flagged. -/
theorem decimal_tells_cents :
    let view : FixedColumn :=
      ⟨.integer .int16, [⟨12345, by decide⟩, ⟨0, by decide⟩, ⟨-5, by decide⟩], 5, 2,
        some [false, true, false]⟩
    let column : Column := ⟨"amount", .fixed view⟩
    2 < view.cells.length ∧ view.kind.countsUnits ∧ view.scale ≠ 0 ∧
      column.isNull 2 = .ok false ∧ column.decimal 2 = .ok (some ⟨-5, 2⟩) ∧
      Decimal.toRat ⟨-5, 2⟩ = -1 / 20 ∧ column.value 2 = .ok (.decimal ⟨-5, 2⟩) := by
  intro view column
  have inside : 2 < view.cells.length := by decide
  have shown : column.isNull 2 = .ok false := rfl
  have answered : column.decimal 2 = .ok (some ⟨-5, 2⟩) := rfl
  obtain ⟨_, _, flagged, told, -, exact, units⟩ := decimal_tells_number "amount" view 2 inside
  cases Except.ok.inj (told.symm.trans answered)
  have number : some ((-5 : Int) / 10 ^ 2 : ℚ) = some (Decimal.toRat ⟨-5, 2⟩) := exact _ rfl
  refine ⟨inside, rfl, by decide, shown, answered, ?_, (units rfl).2 (by decide) _ rfl⟩
  rw [← Option.some.inj number]
  norm_num

/-- An infinite cell is told like a NULL, although the column does not report the row as one. -/
theorem exists_infinite_cell :
    ∃ column : Column, column.type = .fixed .double ∧ column.length = 1 ∧
      column.isNull 0 = .ok false ∧ column.decimal 0 = .ok none ∧
      column.value 0 = .ok (.double (.infinite false)) :=
  ⟨⟨"ratio", .fixed ⟨.double, [.infinite false], 0, 0, none⟩⟩, rfl, rfl, rfl, by rfl, rfl⟩

end Column

end ColumnStore
