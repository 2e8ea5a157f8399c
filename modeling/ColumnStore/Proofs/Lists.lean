import Mathlib.Algebra.BigOperators.Group.List.Basic
import Mathlib.Algebra.Order.Group.Multiset
import Mathlib.Data.List.Forall2

/-!
# Lists

Facts about lists that are not about what is in them: two lists whose elements are related one by
one (`List.Forall₂`), elements that are changed at some positions, and sums over the elements.
-/

set_option autoImplicit false

variable {α β : Type}

namespace Option

/-- Related things are shown alike if all such things are. -/
theorem Rel.map_eq {same : α → α → Prop} {thing other : Option α} {text : α → β}
    (agree : Rel same thing other)
    (shown : ∀ thing other, same thing other → text thing = text other) :
    thing.map text = other.map text := by
  cases agree with
  | none => rfl
  | some agree => exact congrArg Option.some (shown _ _ agree)

end Option

namespace List

/-! ## Related lists -/

/-- A list beside itself, with what is known of its elements. -/
theorem forall₂_self (property : α → Prop) {list : List α}
    (each : ∀ element ∈ list, property element) :
    Forall₂ (fun element other => element = other ∧ property element) list list :=
  forall₂_same.2 fun element member => ⟨rfl, each element member⟩

section Related

variable {related : α → β → Prop} {list : List α} {others : List β}

/-- What is related to the element at a position. -/
theorem Forall₂.exists_getElem? (pairs : Forall₂ related list others) {position : Nat}
    {element : α} (there : list[position]? = some element) :
    ∃ other, others[position]? = some other ∧ related element other := by
  induction pairs generalizing position with
  | nil => cases there
  | cons first _ ih =>
      cases position with
      | zero =>
          cases there
          exact ⟨_, rfl, first⟩
      | succ position => exact ih there

/-- Positions do not matter. -/
theorem Forall₂.zipIdx (pairs : Forall₂ related list others) (start : Nat) :
    Forall₂ (fun entry other => related entry.1 other.1) (list.zipIdx start)
      (others.zipIdx start) := by
  induction pairs generalizing start with
  | nil => exact .nil
  | cons head tail ih => exact .cons head (ih (start + 1))

/-- The first elements that pass a test are related if related elements pass it alike. -/
theorem Forall₂.find? (pairs : Forall₂ related list others) {here : α → Bool} {there : β → Bool}
    (same : ∀ element other, related element other → here element = there other) :
    Option.Rel (fun element other => related element other ∧ there other = true)
      (list.find? here) (others.find? there) := by
  induction pairs with
  | nil => exact .none
  | @cons element other list others head tail ih =>
      rw [find?_cons, find?_cons, same element other head]
      cases chosen : there other with
      | true => exact .some ⟨head, chosen⟩
      | false => exact ih

/-- Lists stay related if the elements at one position do. -/
theorem Forall₂.modify (pairs : Forall₂ related list others) (index : Nat) {change : α → α}
    {second : β → β}
    (kept : ∀ element other, list[index]? = some element → others[index]? = some other →
      related element other → related (change element) (second other)) :
    Forall₂ related (list.modify index change) (others.modify index second) := by
  induction pairs generalizing index with
  | nil => cases index <;> exact .nil
  | cons head tail ih =>
      cases index with
      | zero => exact .cons (kept _ _ rfl rfl head) tail
      | succ index =>
          refine .cons head (ih index fun element other here there => ?_)
          exact kept element other here there

end Related

/-! ## Elements at some positions -/

/-- Each element at one of the positions is changed once, and the others are left alone. -/
theorem getElem?_foldl_modify (change : α → α) {positions : List Nat} (distinct : positions.Nodup)
    (list : List α) (position : Nat) :
    (positions.foldl (fun list position => list.modify position change) list)[position]? =
      if position ∈ positions then list[position]?.map change else list[position]? := by
  induction positions generalizing list with
  | nil => rfl
  | cons first positions ih =>
      obtain ⟨new, distinct⟩ := nodup_cons.1 distinct
      rw [foldl_cons, ih distinct, getElem?_modify]
      by_cases here : position = first
      · subst here
        simp [new]
      · simp [here, Ne.symm here]

/-! ## Sums -/

section Sums

variable {M : Type} [AddCommMonoid M] {list : List α} {position : Nat} {element : α}

/-- A sum is that of an element and the rest. -/
theorem sum_map_eraseIdx (found : list[position]? = some element) (part : α → M) :
    part element + ((list.eraseIdx position).map part).sum = (list.map part).sum := by
  obtain ⟨inside, rfl⟩ := getElem?_eq_some_iff.1 found
  exact ((getElem_cons_eraseIdx_perm inside).map part).sum_eq

theorem sum_map_set (found : list[position]? = some element) (other : α) (part : α → M) :
    ((list.set position other).map part).sum =
      part other + ((list.eraseIdx position).map part).sum := by
  obtain ⟨inside, _⟩ := getElem?_eq_some_iff.1 found
  exact ((set_perm_cons_eraseIdx inside other).map part).sum_eq

theorem sum_map_set_same (found : list[position]? = some element) {other : α} {part : α → M}
    (same : part other = part element) :
    ((list.set position other).map part).sum = (list.map part).sum := by
  rw [sum_map_set found, same, sum_map_eraseIdx found]

/-- One thing for each element. -/
theorem sum_map_singleton (list : List α) (part : α → β) :
    (list.map fun element => ({part element} : Multiset β)).sum = (list.map part : List β) := by
  induction list with
  | nil => rfl
  | cons element rest ih =>
      rw [map_cons, sum_cons, ih]
      rfl

end Sums

end List
