import ColumnStore.Engine.Table
import ColumnStore.Proofs.Lists
import Mathlib.Data.List.Basic

/-!
# Rows by position

A query, an update and a deletion take the rows that pass a filter by their positions in the
table (`Table.positions`). A query reads the rows there, an update changes them one after the
other, and a deletion leaves a row out if a binary search finds its position. The positions are
in increasing order, so each of the three comes down to the rows themselves: those that pass are
read, changed or left out, and the others stay (`select_eq`, `update_eq` and `delete_eq`).
-/

set_option autoImplicit false

namespace ColumnStore

namespace Table

/-! ## Binary search -/

section Search

variable {positions : Array Nat} {position : Nat}

/-- A search between two bounds finds what is at an index between them. -/
theorem isSome_binSearchAux (sorted : ∀ (early late : Nat) (inside : late < positions.size)
      (order : early ≤ late), positions[early] ≤ positions[late])
    (low : Fin (positions.size + 1)) (high : Fin positions.size) (order : low.1 ≤ high.1) :
    Array.binSearchAux (fun left right => decide (left < right)) Option.isSome positions position
        low high order = true ↔
      ∃ (index : Nat) (inside : index < positions.size),
        low.1 ≤ index ∧ index ≤ high.1 ∧ positions[index] = position := by
  -- what is smaller stands before, so one half of the bounds can be left out
  have before (early late : Nat) (inside : early < positions.size) (there : late < positions.size)
      (smaller : positions[early] < positions[late]) : early < late :=
    Nat.lt_of_not_le fun behind => Nat.not_le_of_lt smaller (sorted late early inside behind)
  fun_induction Array.binSearchAux with
  | case1 low high order middle found below next _ ih =>
      refine ih.trans (exists_congr fun index => exists_congr fun inside => ?_)
      constructor
      · rintro ⟨lower, upper, here⟩
        exact ⟨by simp at lower; omega, upper, here⟩
      · rintro ⟨lower, upper, rfl⟩
        exact ⟨before _ _ _ inside (of_decide_eq_true below), upper, rfl⟩
  | case2 low high order middle found below last =>
      simp only [Option.isSome_none, Bool.false_eq_true, false_iff]
      rintro ⟨index, inside, lower, upper, rfl⟩
      have above := before _ _ _ inside (of_decide_eq_true below)
      omega
  | case3 low high order middle found _ above first =>
      simp only [Option.isSome_none, Bool.false_eq_true, false_iff]
      rintro ⟨index, inside, lower, upper, rfl⟩
      have below := before _ _ inside _ (of_decide_eq_true above)
      omega
  | case4 low high order middle found _ above next _ ih =>
      refine ih.trans (exists_congr fun index => exists_congr fun inside => ?_)
      constructor
      · rintro ⟨lower, upper, here⟩
        exact ⟨lower, by simp at upper; omega, here⟩
      · rintro ⟨lower, upper, rfl⟩
        have below := before _ _ inside _ (of_decide_eq_true above)
        exact ⟨lower, by simp; omega, rfl⟩
  | case5 low high order middle found below above =>
      rw [decide_eq_true_eq] at below above
      refine iff_of_true rfl ⟨middle, by omega, by omega, by omega, ?_⟩
      exact Nat.le_antisymm (Nat.le_of_not_lt above) (Nat.le_of_not_lt below)

end Search

/-- A position is found among increasing ones if it is one of them. -/
theorem binSearchContains_toArray {positions : List Nat}
    (increasing : positions.Pairwise (· < ·)) (position : Nat) :
    positions.toArray.binSearchContains position (· < ·) = decide (position ∈ positions) := by
  have sorted (early late : Nat) (inside : late < positions.toArray.size) (order : early ≤ late) :
      positions.toArray[early] ≤ positions.toArray[late] := by
    obtain rfl | before := Nat.eq_or_lt_of_le order
    · exact Nat.le_refl _
    · exact Nat.le_of_lt (List.pairwise_iff_getElem.1 increasing early late _ inside before)
  rw [Bool.eq_iff_iff, decide_eq_true_eq, List.mem_iff_getElem, Array.binSearchContains]
  by_cases any : 0 < positions.toArray.size
  · have last : positions.toArray.size - 1 < positions.toArray.size := Nat.sub_one_lt_of_lt any
    simp only [any, last, dite_true, if_true, Nat.zero_le]
    refine (isSome_binSearchAux sorted _ _ _).trans ?_
    refine exists_congr fun index => exists_congr fun inside => ?_
    constructor
    · rintro ⟨_, _, here⟩
      exact here
    · intro here
      exact ⟨Nat.zero_le _, Nat.le_sub_one_of_lt inside, here⟩
  · rw [dif_neg any]
    simp only [Bool.false_eq_true, false_iff]
    rintro ⟨index, inside, _⟩
    exact any (Nat.zero_lt_of_lt inside)

/-! ## The rows that pass a test -/

/-- The rows at all other positions, in their order. -/
def rowsBesides (table : Table) (positions : List Nat) : List Row :=
  (table.rows.zipIdx.filter fun entry => entry.2 ∉ positions).map (·.1)

section Test

variable {table : Table} {test : Row → Bool} {position : Nat}

theorem mem_positions : position ∈ table.positions test ↔
    ∃ row, table.rows[position]? = some row ∧ test row = true := by
  simp [positions, List.mem_zipIdx_iff_getElem?]

theorem mem_positions_iff (test : Row → Bool) {row : Row}
    (there : table.rows[position]? = some row) :
    position ∈ table.positions test ↔ test row = true := by
  simp [mem_positions, there]

theorem increasing_positions (table : Table) (test : Row → Bool) :
    (table.positions test).Pairwise (· < ·) := by
  have all : (table.rows.zipIdx.map (·.2)).Pairwise (· < ·) := by
    rw [List.zipIdx_map_snd]
    exact List.pairwise_lt_range'
  exact all.sublist (List.filter_sublist.map _)

theorem length_positions (table : Table) (test : Row → Bool) :
    (table.positions test).length = table.rows.countP test := by
  conv_rhs => rw [← List.zipIdx_map_fst 0 table.rows, List.countP_map]
  rw [positions, List.length_map, ← List.countP_eq_length_filter]
  rfl

theorem rowsAt_positions (table : Table) (test : Row → Bool) :
    table.rowsAt (table.positions test) = table.rows.filter test := by
  have there : ∀ entry ∈ table.rows.zipIdx.filter fun entry => test entry.1,
      table.rows[entry.2]? = some entry.1 := fun entry member =>
    List.mem_zipIdx_iff_getElem?.1 (List.mem_of_mem_filter member)
  rw [rowsAt, positions, List.filterMap_map]
  refine (List.filterMap_congr there).trans ?_
  conv_rhs => rw [← List.zipIdx_map_fst 0 table.rows, List.filter_map]
  exact congrFun List.filterMap_eq_map _

theorem rowsBesides_positions (table : Table) (test : Row → Bool) :
    table.rowsBesides (table.positions test) = table.rows.filter fun row => !test row := by
  conv_rhs => rw [← List.zipIdx_map_fst 0 table.rows, List.filter_map]
  refine congrArg _ (List.filter_congr fun entry member => ?_)
  have passed := mem_positions_iff test (List.mem_zipIdx_iff_getElem?.1 member)
  simp [passed]

end Test

/-! ## Changing and leaving out rows -/

/-- The rows that stay are those at other positions. -/
theorem retain_toArray {positions : List Nat} (increasing : positions.Pairwise (· < ·))
    (rows : List Row) (start : Nat) :
    retain positions.toArray rows start =
      ((rows.zipIdx start).filter fun entry => entry.2 ∉ positions).map (·.1) := by
  induction rows generalizing start with
  | nil => rfl
  | cons row rows ih =>
      rw [retain, ih, binSearchContains_toArray increasing, List.zipIdx_cons]
      by_cases member : start ∈ positions <;> simp [member]

/-! ## Statements on the rows that pass a filter -/

variable (table : Table) (filter : Option Filter) (parameters : List Value)

/-- A query returns the rows that pass. -/
theorem select_eq (projection : Option (List String)) :
    table.select projection filter parameters = do
      let targets ← table.targets projection
      let test ← table.test filter parameters
      return (targets, (table.rows.filter test).map fun row =>
        targets.map fun target => cell row target.position) := by
  simp only [select, rowsAt_positions]

/-- An update changes the rows that pass. -/
theorem update_eq (assignments : List Assignment) :
    table.update assignments filter parameters = do
      let values ← assignments.mapM fun assignment => do
        let target ← table.target assignment.column
        return (target.position, ← target.coerce parameters assignment.value)
      let test ← table.test filter parameters
      let rows := table.rows.map fun row => if test row then assign row values else row
      return ({ table with rows }, table.rows.countP test) := by
  have changed (values : List (Nat × Value)) (test : Row → Bool) :
      (table.positions test).foldl (fun rows position => rows.modify position (assign · values))
          table.rows = table.rows.map fun row => if test row then assign row values else row := by
    refine List.ext_getElem? fun position => ?_
    have distinct := (table.increasing_positions test).imp Nat.ne_of_lt
    rw [List.getElem?_foldl_modify _ distinct, List.getElem?_map]
    cases there : table.rows[position]? with
    | none => exact ite_self none
    | some row =>
        have passed := mem_positions_iff test there
        by_cases selected : test row = true <;> simp [passed, selected]
  simp only [update, changed, length_positions]

/-- A deletion leaves the rows that do not pass. -/
theorem delete_eq : table.delete filter parameters = do
      let test ← table.test filter parameters
      return ({ table with rows := table.rows.filter fun row => !test row },
        table.rows.countP test) := by
  have kept (test : Row → Bool) : retain (table.positions test).toArray table.rows 0 =
      table.rows.filter fun row => !test row := by
    rw [retain_toArray (table.increasing_positions test), ← rowsBesides_positions]
    rfl
  simp only [delete, kept, length_positions]

end Table

end ColumnStore
