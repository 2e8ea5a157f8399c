import ColumnStore.Column.Materialize
import ColumnStore.Proofs.TagNumbering

/-!
# Setting NULLs to zero

Fixed-width cells are set to zero row by row, in the buffer that the rows are read from. After the
first rows of a sweep the cells in front are rewritten and the cells behind are as they were, and
there are flags if and only if the column has a scale and a row in front was NULL
(`Sweep.Reached`). One row more keeps this (`Sweep.Reached.visit`), so it holds at the end of the
buffer, where it says all there is to say about a pass (`FixedColumn.ofCells_zeroes_and_flags`).

A descriptor adds to this its tag, which has to name the type of its cells
(`Descriptor.materialize_cases`).
-/

set_option autoImplicit false

namespace ColumnStore

namespace Sweep

variable {kind : FixedKind} {scale : Nat} {test : kind.Cell → Int32} {cells : List kind.Cell}

/-- What the sweep over a buffer has done after its first rows. -/
structure Reached (scale : Nat) (test : kind.Cell → Int32) (cells : List kind.Cell) (rows : Nat)
    (sweep : Sweep kind) : Prop where
  length_eq : sweep.cells.length = cells.length
  rewritten : ∀ row < rows, ∀ cell, cells[row]? = some cell →
    sweep.cells[row]? = some (if test cell = 0 then cell else kind.zero)
  untouched : ∀ row, rows ≤ row → sweep.cells[row]? = cells[row]?
  unflagged : sweep.nulls = none → scale ≠ 0 →
    ∀ row < rows, ∀ cell, cells[row]? = some cell → test cell = 0
  flagged : ∀ flags, sweep.nulls = some flags →
    scale ≠ 0 ∧ (∃ cell ∈ cells, test cell ≠ 0) ∧ flags.length = cells.length ∧
      ∀ (row : Nat) (cell : kind.Cell), cells[row]? = some cell →
        flags[row]? = some (decide (row < rows ∧ test cell ≠ 0))

theorem Reached.start (scale : Nat) (test : kind.Cell → Int32) (cells : List kind.Cell) :
    Reached scale test cells 0 ⟨cells, none⟩ where
  length_eq := rfl
  rewritten := nofun
  untouched _ _ := rfl
  unflagged := nofun
  flagged := nofun

theorem Reached.length_flag {rows row : Nat} {sweep : Sweep kind}
    (reached : Reached scale test cells rows sweep) :
    (sweep.flag row).length = sweep.cells.length := by
  rw [flag, List.length_set]
  cases mask : sweep.nulls with
  | none => exact List.length_replicate
  | some flags => exact (reached.flagged flags mask).2.2.1.trans reached.length_eq.symm

/-- Rows other than the one that is flagged keep their flags; without a mask they have none. -/
theorem getElem?_flag_of_ne {sweep : Sweep kind} {row other : Nat} (distinct : row ≠ other)
    (inside : other < sweep.cells.length) :
    (sweep.flag row)[other]? = sweep.nulls.elim (some false) fun flags => flags[other]? := by
  rw [flag, List.getElem?_set_ne distinct]
  cases sweep.nulls with
  | none => exact List.getElem?_replicate_of_lt inside
  | some flags => rfl

/-- A row that is not NULL changes nothing, and was not flagged before. -/
theorem Reached.skip {rows : Nat} {sweep : Sweep kind} {cell : kind.Cell}
    (reached : Reached scale test cells rows sweep) (found : cells[rows]? = some cell)
    (present : test cell = 0) : Reached scale test cells (rows + 1) sweep where
  length_eq := reached.length_eq
  rewritten := by
    intro row before other there
    rcases Nat.lt_succ_iff_lt_or_eq.1 before with earlier | rfl
    · exact reached.rewritten row earlier other there
    · cases found.symm.trans there
      rw [reached.untouched row (Nat.le_refl row), found, if_pos present]
  untouched row behind := reached.untouched row (Nat.le_of_succ_le behind)
  unflagged := by
    intro clean scaled row before other there
    rcases Nat.lt_succ_iff_lt_or_eq.1 before with earlier | rfl
    · exact reached.unflagged clean scaled row earlier other there
    · cases found.symm.trans there
      exact present
  flagged := by
    intro flags mask
    obtain ⟨scaled, origin, length, each⟩ := reached.flagged flags mask
    refine ⟨scaled, origin, length, fun row other there => ?_⟩
    rw [each row other there]
    have same : (row < rows ∧ test other ≠ 0) ↔ (row < rows + 1 ∧ test other ≠ 0) := by
      refine and_congr_left fun missing => ?_
      have distinct : row ≠ rows := by
        rintro rfl
        cases found.symm.trans there
        exact missing present
      omega
    exact congrArg some (decide_eq_decide.2 same)

/-- The flags after a row that is NULL. -/
theorem Reached.getElem?_flag {rows : Nat} {sweep : Sweep kind} {cell : kind.Cell}
    (reached : Reached scale test cells rows sweep) (found : cells[rows]? = some cell)
    (missing : test cell ≠ 0) (scaled : scale ≠ 0) {row : Nat} {other : kind.Cell}
    (there : cells[row]? = some other) :
    (sweep.flag rows)[row]? = some (decide (row < rows + 1 ∧ test other ≠ 0)) := by
  have inside : row < sweep.cells.length :=
    reached.length_eq ▸ (List.getElem?_eq_some_iff.1 there).1
  by_cases here : rows = row
  · subst here
    cases found.symm.trans there
    have flagged : rows < (sweep.flag rows).length := reached.length_flag ▸ inside
    rw [flag, List.length_set] at flagged
    rw [flag, List.getElem?_set_self flagged]
    simp [missing]
  · have same : (row < rows ∧ test other ≠ 0) ↔ (row < rows + 1 ∧ test other ≠ 0) :=
      and_congr_left fun _ => by omega
    rw [getElem?_flag_of_ne here inside, ← decide_eq_decide.2 same]
    cases before : sweep.nulls with
    | none =>
        have unseen : ¬ (row < rows ∧ test other ≠ 0) := fun ⟨earlier, null⟩ =>
          null (reached.unflagged before scaled row earlier other there)
        rw [decide_eq_false unseen]
        rfl
    | some flags => exact (reached.flagged flags before).2.2.2 row other there

/-- A row that is NULL becomes zero, and is flagged if the column has a scale. -/
theorem Reached.clear {rows : Nat} {sweep : Sweep kind} {cell : kind.Cell}
    (reached : Reached scale test cells rows sweep) (found : cells[rows]? = some cell)
    (missing : test cell ≠ 0) :
    Reached scale test cells (rows + 1)
      ⟨sweep.cells.set rows kind.zero, if scale ≠ 0 then some (sweep.flag rows) else sweep.nulls⟩
    where
  length_eq := List.length_set.trans reached.length_eq
  rewritten := by
    intro row before other there
    rcases Nat.lt_succ_iff_lt_or_eq.1 before with earlier | rfl
    · rw [List.getElem?_set_ne (Nat.ne_of_gt earlier)]
      exact reached.rewritten row earlier other there
    · cases found.symm.trans there
      have inside : row < sweep.cells.length :=
        reached.length_eq ▸ (List.getElem?_eq_some_iff.1 found).1
      rw [List.getElem?_set_self inside, if_neg missing]
  untouched row behind := by
    rw [List.getElem?_set_ne (Nat.ne_of_lt behind)]
    exact reached.untouched row (Nat.le_of_succ_le behind)
  unflagged := by
    intro clean scaled
    rw [if_pos scaled] at clean
    cases clean
  flagged := by
    intro flags mask
    by_cases scaled : scale ≠ 0
    · rw [if_pos scaled] at mask
      cases mask
      exact ⟨scaled, ⟨cell, List.mem_of_getElem? found, missing⟩,
        reached.length_flag.trans reached.length_eq,
        fun row other there => reached.getElem?_flag found missing scaled there⟩
    · rw [if_neg scaled] at mask
      exact absurd (reached.flagged flags mask).1 scaled

/-- **One row more.** -/
theorem Reached.visit {rows : Nat} {sweep : Sweep kind}
    (reached : Reached scale test cells rows sweep) (inside : rows < cells.length) :
    Reached scale test cells (rows + 1) (sweep.visit scale test rows) := by
  have found : cells[rows]? = some cells[rows] := List.getElem?_eq_getElem inside
  have seen : sweep.cells[rows]? = some cells[rows] :=
    (reached.untouched rows (Nat.le_refl rows)).trans found
  rw [Sweep.visit, seen]
  by_cases present : test cells[rows] = 0
  · simp only [if_pos present]
    exact reached.skip found present
  · simp only [if_neg present]
    exact reached.clear found present

/-- The first rows in order. -/
theorem reached_foldl (scale : Nat) (test : kind.Cell → Int32) (cells : List kind.Cell)
    {rows : Nat} (inside : rows ≤ cells.length) :
    Reached scale test cells rows ((List.range rows).foldl (visit scale test) ⟨cells, none⟩) := by
  induction rows with
  | zero => exact .start scale test cells
  | succ rows ih =>
      rw [List.range_succ, List.foldl_append]
      exact (ih (Nat.le_of_succ_le inside)).visit inside

theorem reached_overAll (scale : Nat) (test : kind.Cell → Int32) (cells : List kind.Cell) :
    Reached scale test cells cells.length (overAll scale test cells) :=
  reached_foldl scale test cells (Nat.le_refl _)

end Sweep

/-- A sweep over all rows sets the NULLs to zero, and a column with a scale that has one flags its
NULLs. -/
theorem Sweep.overAll_eq {kind : FixedKind} (scale : Nat) (test : kind.Cell → Int32)
    (cells : List kind.Cell) :
    overAll scale test cells =
      ⟨cells.map fun cell => if test cell ≠ 0 then kind.zero else cell,
        if scale ≠ 0 ∧ true ∈ cells.map fun cell => decide (test cell ≠ 0) then
          some (cells.map fun cell => decide (test cell ≠ 0))
        else none⟩ := by
  have reached := reached_overAll scale test cells
  generalize overAll scale test cells = sweep at reached ⊢
  obtain ⟨swept, nulls⟩ := sweep
  obtain ⟨length, rewritten, -, unflagged, flagged⟩ := reached
  dsimp only at length
  congr 1
  · refine List.ext_getElem? fun row => ?_
    rw [List.getElem?_map]
    cases there : cells[row]? with
    | none => exact List.getElem?_eq_none (length ▸ List.getElem?_eq_none_iff.1 there)
    | some cell =>
        rw [rewritten row (List.getElem?_eq_some_iff.1 there).1 cell there, Option.map_some,
          ite_not]
  · cases nulls with
    | none =>
        refine (if_neg ?_).symm
        rintro ⟨scaled, one⟩
        obtain ⟨cell, member, null⟩ := List.mem_map.1 one
        obtain ⟨row, there⟩ := List.mem_iff_getElem?.1 member
        exact of_decide_eq_true null
          (unflagged rfl scaled row (List.getElem?_eq_some_iff.1 there).1 cell there)
    | some flags =>
        obtain ⟨scaled, ⟨cell, member, null⟩, whole, each⟩ := flagged flags rfl
        rw [if_pos ⟨scaled, List.mem_map.2 ⟨cell, member, decide_eq_true null⟩⟩]
        refine congrArg some (List.ext_getElem? fun row => ?_)
        rw [List.getElem?_map]
        cases there : cells[row]? with
        | none => exact List.getElem?_eq_none (whole ▸ List.getElem?_eq_none_iff.1 there)
        | some cell =>
            rw [each row cell there, Option.map_some]
            simp only [(List.getElem?_eq_some_iff.1 there).1, true_and]

/-! ## The pass over a column -/

theorem FixedKind.length_cellBytes (kind : FixedKind) (cell : kind.Cell) :
    (kind.cellBytes cell).length = kind.width := by
  cases kind <;> exact length_littleEndian _ _

namespace FixedColumn

variable {kind : FixedKind}

/-- The octets of a view are those of its cells, and nothing else. -/
theorem length_bytes (column : FixedColumn) :
    column.bytes.length = column.cells.length * column.kind.width := by
  rw [bytes, List.length_flatMap]
  simp only [FixedKind.length_cellBytes, List.map_const', List.sum_replicate_nat]

/-- The cells of a buffer with the NULLs set to zero. -/
def zeroed (array : CellArray kind.Cell) (cells : List kind.Cell) : List kind.Cell :=
  cells.map fun cell => if array.isNull cell then kind.zero else cell

/-- The flags of the rows that are NULL, if a column with the scale has such rows. -/
def mask (scale : Nat) (array : CellArray kind.Cell) (cells : List kind.Cell) :
    Option (List Bool) :=
  if scale ≠ 0 ∧ true ∈ cells.map array.isNull then some (cells.map array.isNull) else none

/-- What a pass over a buffer leaves, row by row. -/
theorem ofCells_buffer (digits scale : Nat) {array : CellArray kind.Cell} {cells : List kind.Cell}
    (stored : array.storage = .buffer cells) :
    ofCells kind digits scale array =
      (.ok ⟨kind, zeroed array cells, digits, scale, mask scale array cells⟩,
        array.withStorage (.buffer (zeroed array cells))) := by
  obtain ⟨_, nullTest⟩ := array
  cases stored
  unfold ofCells zeroed mask
  cases nullTest with
  | none => simp [CellArray.isNull]
  | some test =>
      simp only [Sweep.overAll_eq, CellArray.isNull, decide_eq_true_eq]
      rfl

/-- A pass that succeeds has seen as many cells as there should be: those of the buffer, or none. -/
theorem view_of_ofCells {digits scale : Nat} {array passed : CellArray kind.Cell}
    {view : FixedColumn} (done : ofCells kind digits scale array = (.ok view, passed)) :
    ∃ cells : List kind.Cell, cells.length = array.storage.count ∧
      view = ⟨kind, zeroed array cells, digits, scale, mask scale array cells⟩ := by
  cases stored : array.storage with
  | missing count =>
      simp only [ofCells, stored] at done
      cases count with
      | zero =>
          cases done
          exact ⟨[], rfl, by simp [zeroed, mask]⟩
      | succ rows => cases done
  | buffer cells =>
      rw [ofCells_buffer digits scale stored] at done
      cases done
      exact ⟨cells, rfl, rfl⟩

/-- **A pass over a buffer of fixed-width cells succeeds.** It sets the cells that are NULL to zero
and leaves the others, in the buffer as in the view, and it flags the rows that were NULL, if there
are any and the column has a scale. Without cells the view is empty, and without a buffer for its
cells a column is refused; the column stays as it is. -/
theorem ofCells_zeroes_and_flags (kind : FixedKind) (digits scale : Nat)
    (array : CellArray kind.Cell) :
    (∀ cells, array.storage = .buffer cells →
      ∃ written nulls,
        ofCells kind digits scale array =
          (.ok ⟨kind, written, digits, scale, nulls⟩, array.withStorage (.buffer written)) ∧
        written.length = cells.length ∧
        (∀ (row : Nat) (cell : kind.Cell), cells[row]? = some cell →
          written[row]? = some (if array.isNull cell then kind.zero else cell)) ∧
        (bytes ⟨kind, written, digits, scale, nulls⟩).length = cells.length * kind.width ∧
        (nulls.isSome ↔ scale ≠ 0 ∧ ∃ cell ∈ cells, array.isNull cell) ∧
        ∀ flags, nulls = some flags → flags.length = cells.length ∧
          ∀ (row : Nat) (cell : kind.Cell), cells[row]? = some cell →
            flags[row]? = some (array.isNull cell)) ∧
    (array.storage.count = 0 →
      ofCells kind digits scale array = (.ok ⟨kind, [], digits, scale, none⟩, array)) ∧
    ∀ count, array.storage = .missing count → 0 < count →
      ofCells kind digits scale array =
        (.error (.native .resultFetch s!"column has {count} rows but no data buffer"), array) := by
  refine ⟨fun cells stored => ?buffer, fun empty => ?empty, fun count stored some_ => ?missing⟩
  case buffer =>
    refine ⟨_, _, ofCells_buffer digits scale stored, List.length_map _, fun row cell there => ?_,
      ?_, ?_, fun flags flagged => ?_⟩
    · rw [zeroed, List.getElem?_map, there, Option.map_some]
    · rw [length_bytes, zeroed, List.length_map]
    · simp only [mask, Option.isSome_ite, List.mem_map]
    · rw [mask, Option.ite_none_right_eq_some] at flagged
      obtain ⟨-, same⟩ := flagged
      cases same
      refine ⟨List.length_map _, fun row cell there => ?_⟩
      rw [List.getElem?_map, there, Option.map_some]
  case empty =>
    obtain ⟨storage, nullTest⟩ := array
    cases storage with
    | missing count =>
        cases empty
        rfl
    | buffer cells =>
        cases List.eq_nil_of_length_eq_zero empty
        rw [ofCells_buffer digits scale rfl]
        simp [zeroed, mask, CellArray.withStorage]
  case missing =>
    obtain ⟨_, nullTest⟩ := array
    cases stored
    obtain ⟨rows, rfl⟩ := Nat.exists_eq_succ_of_ne_zero (Nat.ne_of_gt some_)
    rfl

end FixedColumn

/-! ## The pass over a descriptor -/

namespace Descriptor

variable {descriptor : Descriptor} {layout : TagLayout} {index : Nat}

/-- A tag that has no code stops the program. -/
theorem materialize_stopped {stop : Error} (stopped : layout.decode? descriptor.tag = .error stop)
    (index : Nat) : descriptor.materialize layout index = (.error stop, descriptor) := by
  simp only [materialize, stopped]

theorem materialize_unnamed {named : Option ColumnType}
    (decoded : layout.decode? descriptor.tag = .ok named)
    (unnamed : named ≠ some descriptor.cells.type) (index : Nat) :
    descriptor.materialize layout index =
      (.error (.unsupportedType index descriptor.tag), descriptor) := by
  simp only [materialize, decoded]
  cases named with
  | none => rfl
  | some type =>
      have other : descriptor.cells.type ≠ type := by
        rintro rfl
        exact unnamed rfl
      simp only [ColumnCells.materialize.eq_def, if_neg other]
      rfl

/-- A descriptor whose tag does not name the type of its cells is left as it is. -/
theorem exists_materialize_eq_error
    (other : layout.decode? descriptor.tag ≠ .ok (some descriptor.cells.type)) (index : Nat) :
    ∃ error, descriptor.materialize layout index = (.error error, descriptor) := by
  cases decoded : layout.decode? descriptor.tag with
  | error stop => exact ⟨stop, materialize_stopped decoded index⟩
  | ok named =>
      refine ⟨_, materialize_unnamed decoded (fun same => other ?_) index⟩
      rw [decoded, same]

/-- The tag of a descriptor that can be materialized names the type of its cells. -/
theorem named_of_materialize {fetched : Column}
    (materialized : (descriptor.materialize layout index).1 = .ok fetched) :
    layout.decode? descriptor.tag = .ok (some descriptor.cells.type) := by
  by_contra other
  obtain ⟨error, refused⟩ := exists_materialize_eq_error other index
  rw [refused] at materialized
  cases materialized

theorem materialize_of_fixed {kind : FixedKind} {array : CellArray kind.Cell}
    (named : layout.decode? descriptor.tag = .ok (some (.fixed kind)))
    (laid : descriptor.cells = .fixed kind array) (index : Nat) :
    descriptor.materialize layout index =
      ((fun view => ⟨descriptor.label, .fixed view⟩) <$>
          (FixedColumn.ofCells kind descriptor.digits descriptor.scale array).1,
        { descriptor with
          cells := .fixed kind
            (FixedColumn.ofCells kind descriptor.digits descriptor.scale array).2 }) := by
  simp only [materialize, named, laid, ColumnCells.materialize, ColumnCells.type, if_true]
  cases (FixedColumn.ofCells kind descriptor.digits descriptor.scale array).1 <;> rfl

theorem materialize_of_boxed {kind : BoxedKind} {array : CellArray kind.Cell}
    (named : layout.decode? descriptor.tag = .ok (some (.boxed kind)))
    (laid : descriptor.cells = .boxed kind array) (index : Nat) :
    descriptor.materialize layout index =
      (.ok ⟨descriptor.label, .boxed (BoxedColumn.ofCells kind array)⟩, descriptor) := by
  simp only [materialize, named, laid, ColumnCells.materialize, ColumnCells.type, if_true]
  rw [← laid]
  rfl

/-- **A column that is materialized** is the view of fixed-width cells, or the copy of boxed
ones. -/
theorem materialize_cases {column : Column}
    (pass : (descriptor.materialize layout index).1 = .ok column) :
    (∃ kind array view passed, layout.decode? descriptor.tag = .ok (some (.fixed kind)) ∧
      descriptor.cells = .fixed kind array ∧
      FixedColumn.ofCells kind descriptor.digits descriptor.scale array = (.ok view, passed) ∧
      column = ⟨descriptor.label, .fixed view⟩ ∧
      (descriptor.materialize layout index).2 = { descriptor with cells := .fixed kind passed }) ∨
    ∃ kind array, layout.decode? descriptor.tag = .ok (some (.boxed kind)) ∧
      descriptor.cells = .boxed kind array ∧
      column = ⟨descriptor.label, .boxed (BoxedColumn.ofCells kind array)⟩ ∧
      (descriptor.materialize layout index).2 = descriptor := by
  have named := named_of_materialize pass
  cases laid : descriptor.cells with
  | fixed kind array =>
      rw [laid] at named
      rw [materialize_of_fixed named laid] at pass ⊢
      obtain ⟨view, done, rfl⟩ := Except.map_eq_ok.1 pass
      exact .inl ⟨kind, array, view, _, named, rfl, Prod.ext done rfl, rfl, rfl⟩
  | boxed kind array =>
      rw [laid] at named
      rw [materialize_of_boxed named laid] at pass ⊢
      cases pass
      exact .inr ⟨kind, array, named, rfl, rfl, rfl⟩

end Descriptor

end ColumnStore
