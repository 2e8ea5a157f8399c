import ColumnStore.Sql.Statement
import Mathlib.Data.List.Basic

/-!
# The numbers of placeholders

Placeholders are numbered as they are read. Expressions are numbered from one count to another
when each placeholder among them has the number of placeholders before it; that is to say their
placeholders are the numbers between the two counts, in order.

Main results: `numbered_append` and `numbered_iff`.
-/

set_option autoImplicit false

namespace ColumnStore

/-- With so many placeholders before the expressions, and so many behind them, each placeholder
among them has the number of those before it. -/
inductive Numbered : Nat → List Expression → Nat → Prop
  | nil (count : Nat) : Numbered count [] count
  | literal {start finish : Nat} {rest : List Expression} (value : Value)
      (others : Numbered start rest finish) : Numbered start (.literal value :: rest) finish
  | placeholder {start finish : Nat} {rest : List Expression}
      (others : Numbered (start + 1) rest finish) :
      Numbered start (.placeholder start :: rest) finish

/-- The placeholders among expressions, in order. -/
def Expression.holes (expressions : List Expression) : List Nat :=
  expressions.filterMap fun expression =>
    match expression with
    | .literal _ => none
    | .placeholder index => some index

theorem Statement.placeholders_eq (statement : Statement) :
    statement.placeholders = Expression.holes statement.expressions :=
  rfl

namespace Numbered

variable {start middle finish : Nat} {expressions front back : List Expression}

theorem append (first : Numbered start front middle) (second : Numbered middle back finish) :
    Numbered start (front ++ back) finish := by
  induction first with
  | nil => exact second
  | literal value _ ih => exact .literal value (ih second)
  | placeholder _ ih => exact .placeholder (ih second)

theorem exists_of_append (numbered : Numbered start (front ++ back) finish) :
    ∃ middle, Numbered start front middle ∧ Numbered middle back finish := by
  induction front generalizing start with
  | nil => exact ⟨start, .nil start, numbered⟩
  | cons expression rest ih =>
      cases numbered with
      | literal value others =>
          obtain ⟨middle, first, second⟩ := ih others
          exact ⟨middle, .literal value first, second⟩
      | placeholder others =>
          obtain ⟨middle, first, second⟩ := ih others
          exact ⟨middle, .placeholder first, second⟩

theorem le (numbered : Numbered start expressions finish) : start ≤ finish := by
  induction numbered with
  | nil => exact Nat.le_refl _
  | literal _ _ ih => exact ih
  | placeholder _ ih => exact Nat.le_of_succ_le ih

/-- The placeholders are the numbers between the counts. -/
theorem holes_eq (numbered : Numbered start expressions finish) :
    Expression.holes expressions = List.range' start (finish - start) := by
  induction numbered with
  | nil => simp [Expression.holes]
  | literal _ _ ih => exact ih
  | @placeholder start finish rest others ih =>
      have after := others.le
      rw [show finish - start = (finish - (start + 1)) + 1 by omega, List.range'_succ, ← ih]
      rfl

end Numbered

/-- Expressions are numbered one part after the other. -/
theorem numbered_append {start finish : Nat} {front back : List Expression} :
    Numbered start (front ++ back) finish ↔
      ∃ middle, Numbered start front middle ∧ Numbered middle back finish :=
  ⟨Numbered.exists_of_append, fun ⟨_, first, second⟩ => first.append second⟩

/-- **Expressions are numbered just when their placeholders are the numbers in between.** -/
theorem numbered_iff {start count : Nat} {expressions : List Expression} :
    Numbered start expressions (start + count) ↔
      Expression.holes expressions = List.range' start count := by
  constructor
  · intro numbered
    rw [numbered.holes_eq, Nat.add_sub_cancel_left]
  · intro holes
    induction expressions generalizing start count with
    | nil =>
        have none_ : count = 0 := by simpa [Expression.holes] using holes.symm
        subst none_
        exact .nil start
    | cons expression rest ih =>
        cases expression with
        | literal value => exact .literal value (ih holes)
        | placeholder index =>
            have first : index :: Expression.holes rest = List.range' start count := holes
            cases count with
            | zero => cases first
            | succ count =>
                rw [List.range'_succ] at first
                obtain ⟨rfl, others⟩ := List.cons.inj first
                have numbered := ih others
                rw [show index + 1 + count = index + (count + 1) by omega] at numbered
                exact .placeholder numbered

end ColumnStore
