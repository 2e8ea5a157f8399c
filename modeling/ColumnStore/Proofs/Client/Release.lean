import ColumnStore.Proofs.Client.Journal

/-!
# Objects are released once

Whatever the entries of a library answer, over every run of a caller each result and each
statement that was handed out is given back once, or is still alive, or is the description of a
statement that is missing or not readable, or one that stops the program
(`Caller.handed_eq_released`). A result without columns is given back before the call that it comes
from returns, so a caller never holds one; a description is given back before the statement is
handed on, so a caller never holds one either.

The exception is a gap: the description that comes with a statement whose type tags cannot be
decoded, or without a statement, is given back by nobody
(`Caller.exists_description_not_released`). The same happens if the type tag of a column of the
description is so large that decoding it stops the program (`TagLayout.decode?_eq_error`).
-/

set_option autoImplicit false

namespace ColumnStore

open Journaled

namespace Caller

variable {σ ι : Type}

/-- A caller after some operations, of libraries whose calls were written down. -/
abbrev observed (apis : ι → Api σ) (operations : List (Operation ι)) (library : σ) :
    Caller (Journaled σ) :=
  (start (Journaled.start library)).run (fun name => (apis name).journaled) operations

/-- Over every run the journal is in balance. -/
theorem accounted_observed {owes : Multiset Loan → σ → Prop} {apis : ι → Api σ}
    (accounts : ∀ name, (apis name).Accounts owes) (operations : List (Operation ι)) (library : σ)
    (nothing : owes 0 library) :
    (observed apis operations library).Accounted (Journaled.Owes owes) :=
  (accounted_start (owes_start nothing)).run (fun name => (accounts name).journaled) operations

/-- **Every object is given back once**, unless it is alive or lost, and not before it was handed
out; what is alive of results has columns. -/
theorem handed_eq_released (apis : ι → Api σ) (operations : List (Operation ι)) (library : σ) :
    let caller := observed apis operations library
    let events := caller.library.events
    total Event.handed events =
        total Event.released events + caller.loans + total Event.lost events ∧
      (∀ earlier, earlier <+: events →
        total Event.released earlier ≤ total Event.handed earlier) ∧
      ∀ holding ∈ caller.holdings, ∀ result ∈ holding.results, 0 < result.columnCount := by
  have accounted := accounted_observed (fun name => (apis name).accounts_anything) operations
    library trivial
  refine ⟨accounted.owed.balanced, accounted.owed.earlier, fun holding held result member => ?_⟩
  exact ((accounted.sound holding held).results result member).2

/-! ## A description that is lost -/

/-- A library that answers the same every time. The statement that it prepares has a parameter
whose type tag names no type. -/
def unreadable : FunctionTable Unit where
  openDatabase _ _ := pure (0, some ⟨.script, 0⟩)
  closeDatabase _ := pure 0
  lastError _ := pure none
  getAutocommit _ := pure (.ok 1)
  setAutocommit _ _ := pure (.ok ())
  query _ _ := pure (.ok ⟨none, 0⟩)
  resultFetch _ _ := pure (.ok none)
  cleanupResult _ _ := pure (.ok ())
  prepare _ _ := pure (.ok ⟨some ⟨⟨.script, 0⟩, 1, some [99]⟩,
    some ⟨⟨.script, 0⟩, ⟨1, 7, none, -1⟩⟩⟩)
  bind _ _ _ := pure (.ok ())
  execute _ := pure (.ok ⟨none, 0⟩)
  cleanupStatement _ _ := pure (.ok ())
  nullValue _ _ := pure (.ok none)
  writeCells _ _ := pure ()

/-- What was handed out need be neither given back nor alive. -/
theorem exists_description_not_released : ¬ ∀ (apis : Unit → Api Unit)
    (operations : List (Operation Unit)),
    let caller := observed apis operations ()
    total Event.handed caller.library.events =
      total Event.released caller.library.events + caller.loans := by
  intro claimed
  have balanced := claimed (fun _ => Api.ofTable unreadable ⟨true⟩)
    [.openDatabase () none Options.default, .act 0 (.prepare "x")]
  revert balanced
  decide +kernel

end Caller

end ColumnStore
