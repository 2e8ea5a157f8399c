import ColumnStore.Proofs.Client.Release
import ColumnStore.Proofs.Engine.Counters

/-!
# What the engine counts

Whatever a caller does with databases of the engine, and whether or not it succeeds, the counters
of the engine are the numbers of databases, results and statements that the caller holds. So an
object is only ever released while the engine counts at least one of its kind: the subtraction
that stops at zero never has to. Results that only report a change of the tables and descriptions
of statements are counted for as long as a call lasts, and no longer.

Main result: `Caller.counters_eq_alive`.
-/

set_option autoImplicit false

namespace ColumnStore

open Journaled

/-- The engine as a library, for either numbering of type tags. -/
def Engine.apis (layout : TagLayout) : Api Engine :=
  Api.ofTable (functionTable layout) layout

section Alive

variable {σ : Type}

/-- How many objects of a kind are held along with a database, itself included. -/
def Holding.alive (holding : Holding σ) : Resource → Nat
  | .database => 1
  | .result => holding.results.length
  | .statement => holding.statements.length

/-- How many objects of a kind a caller holds. -/
def Caller.alive (caller : Caller σ) (resource : Resource) : Nat :=
  (caller.holdings.map fun holding => holding.alive resource).sum

/-- Objects of one kind, counted by a kind. -/
theorem countP_sum_map_singleton {β : Type} {loan : β → Loan} (kind : Resource)
    (each : ∀ element, (loan element).resource = kind) (list : List β) (resource : Resource) :
    (list.map fun element => ({loan element} : Multiset Loan)).sum.countP
        (fun loan => loan.resource = resource) =
      if kind = resource then list.length else 0 := by
  induction list with
  | nil => simp
  | cons element rest ih =>
      rw [List.map_cons, List.sum_cons, Engine.countP_resource, ih, each, List.length_cons]
      split <;> rfl

theorem Holding.countP_loans (holding : Holding σ) (resource : Resource) :
    holding.loans.countP (fun loan => loan.resource = resource) = holding.alive resource := by
  rw [loans, Engine.countP_resource, Multiset.countP_add, resultLoans, statementLoans,
    countP_sum_map_singleton .result fun _ => rfl,
    countP_sum_map_singleton .statement fun _ => rfl]
  cases resource <;> simp [alive, Connection.loan, Loan.resource]

/-- What a caller owes of a kind is what it holds of it. -/
theorem Caller.countP_loans (caller : Caller σ) (resource : Resource) :
    caller.loans.countP (fun loan => loan.resource = resource) = caller.alive resource := by
  unfold loans alive
  induction caller.holdings with
  | nil => simp
  | cons holding rest ih =>
      rw [List.map_cons, List.sum_cons, Multiset.countP_add, holding.countP_loans, ih,
        List.map_cons, List.sum_cons]

end Alive

/-- **The engine counts what is alive**, and counts at least one of whatever it releases. -/
theorem Caller.counters_eq_alive (operations : List (Operation TagLayout)) :
    let caller := (start Engine.empty).run Engine.apis operations
    let counters := caller.library.counters
    counters.databases = caller.holdings.length ∧
      counters.results = (caller.holdings.map fun holding => holding.results.length).sum ∧
      counters.statements = (caller.holdings.map fun holding => holding.statements.length).sum ∧
      ∀ entry ∈ (observed Engine.apis operations Engine.empty).library.entries,
        ∀ loan ∈ entry.event.released, 0 < entry.before.counters.alive loan.resource := by
  intro caller counters
  have counted (resource : Resource) : counters.alive resource = caller.alive resource := by
    have accounted := (accounted_start Engine.owes_empty).run Engine.accounts operations
    exact (accounted.owed.counted resource).trans (caller.countP_loans resource)
  refine ⟨?_, counted .result, counted .statement, fun entry member loan released => ?_⟩
  · have databases := counted .database
    simpa [Counters.alive, Caller.alive, Holding.alive] using databases
  · have accounted := accounted_observed Engine.accounts operations Engine.empty Engine.owes_empty
    obtain ⟨owed, present, owes⟩ := accounted.owed.covered entry member loan released
    rw [owes.counted, Multiset.countP_pos]
    exact ⟨loan, present, rfl⟩

/-- A statement that was prepared leaves its description uncounted, and a table that was made
leaves no result. -/
example : ((Caller.start Engine.empty).run Engine.apis
    [.openDatabase ⟨true⟩ none Options.default,
      .act 0 (.query "CREATE TABLE t (a INT)" ⟨false, 0⟩), .act 0 (.prepare "SELECT a FROM t"),
      .act 0 (.execute 0 ⟨false, 0⟩)]).library.counters = ⟨1, 1, 1, 7⟩ := by
  decide +kernel

end ColumnStore
