import ColumnStore.Proofs.Client.Caller

/-!
# What callers are answered with

What a caller does with an open database is a call, which may fail (`Action.call`): whether it
fails decides what is held afterwards, but nothing else of its outcome is kept (`Action.perform`).
An action is done over the connection of the database, and what is held after an operation was
held before, was just opened or was acted on (`Operation.mem_perform`).
-/

set_option autoImplicit false

namespace ColumnStore

variable {σ ι α : Type}

/-! ## Calls for their outcome alone -/

namespace Call

/-- The call without its answer. -/
def done (call : Call σ α) : Call σ Unit :=
  call >>= fun _ => pure ()

theorem snd_done (call : Call σ α) (state : σ) : (call.done state).2 = (call state).2 := by
  rcases run : call state with ⟨outcome, reached⟩
  cases outcome with
  | ok answer => exact congrArg Prod.snd (bind_of_ok run)
  | error error => exact congrArg Prod.snd (bind_of_error run)

end Call

/-- An attempt to bind, as a call. -/
def PreparedStatement.attempt (statement : PreparedStatement σ) (index : Nat) (binding : Binding) :
    Call σ Unit := fun state =>
  let bound := binding.update index statement state
  (bound.1.1, bound.2)

/-! ## Actions -/

/-- What an action is answered with; what it is about has to be held. -/
def Action.call (action : Action) (holding : Holding σ) : Call σ Unit :=
  match action with
  | lastError => Call.done holding.connection.lastError
  | autocommit => holding.connection.autocommit.done
  | setAutocommit enabled => holding.connection.setAutocommit enabled
  | query text options => (holding.connection.query text options).done
  | fetchAll position =>
      holding.results[position]?.elim (pure ()) fun result => result.fetchAll.done
  | closeResult position => holding.results[position]?.elim (pure ()) ResultSet.close
  | prepare text => (holding.connection.prepare text).done
  | bind position index binding =>
      holding.statements[position]?.elim (pure ()) fun statement =>
        statement.attempt index binding
  | execute position options =>
      holding.statements[position]?.elim (pure ()) fun statement =>
        (statement.execute options).done
  | releaseStatement position =>
      holding.statements[position]?.elim (pure ()) PreparedStatement.release

theorem Holding.snd_calling (holding : Holding σ) (call : Call σ α) (take : α → Holding σ)
    (state : σ) : (holding.calling call take state).2 = (call state).2 := by
  unfold calling
  split <;> next run => rw [run]

/-- The answer is that of the action, since it leaves the library in the same state. -/
theorem Action.snd_call (action : Action) (holding : Holding σ) (state : σ) :
    (action.call holding state).2 = (action.perform holding state).2 := by
  cases action with
  | lastError => rfl
  | setAutocommit enabled => exact (Holding.snd_calling ..).symm
  | autocommit | query _ _ | prepare _ =>
      exact (Call.snd_done _ state).trans (Holding.snd_calling ..).symm
  | fetchAll position =>
      simp only [call, perform, Holding.onResult]
      cases holding.results[position]? with
      | none => rfl
      | some result => exact (Call.snd_done _ state).trans (Holding.snd_calling ..).symm
  | closeResult position =>
      simp only [call, perform, Holding.onResult]
      cases holding.results[position]? <;> rfl
  | execute position options =>
      simp only [call, perform, Holding.onStatement]
      cases holding.statements[position]? with
      | none => rfl
      | some statement => exact (Call.snd_done _ state).trans (Holding.snd_calling ..).symm
  | bind position | releaseStatement position =>
      simp only [call, perform, Holding.onStatement]
      cases holding.statements[position]? <;> rfl

theorem Holding.connection_keep (holding : Holding σ) (outcome : Outcome σ) :
    (holding.keep outcome).connection = holding.connection := by
  cases outcome <;> rfl

theorem Holding.connection_calling (holding : Holding σ) {call : Call σ α} {take : α → Holding σ}
    (taken : ∀ answer, (take answer).connection = holding.connection) (state : σ) :
    (holding.calling call take state).1.connection = holding.connection := by
  unfold calling
  split
  · exact taken _
  · rfl

/-- An action is done over the same connection. -/
theorem Action.connection_perform (action : Action) (holding : Holding σ) (state : σ) :
    (action.perform holding state).1.connection = holding.connection := by
  cases action with
  | lastError => rfl
  | autocommit | setAutocommit _ | prepare _ =>
      refine holding.connection_calling ?_ state
      exact fun _ => rfl
  | query _ _ => exact holding.connection_calling holding.connection_keep state
  | fetchAll position =>
      simp only [perform, Holding.onResult]
      cases holding.results[position]? with
      | none => rfl
      | some result =>
          refine holding.connection_calling ?_ state
          exact fun _ => rfl
  | closeResult position =>
      simp only [perform, Holding.onResult]
      cases holding.results[position]? <;> rfl
  | execute position _ =>
      simp only [perform, Holding.onStatement]
      cases holding.statements[position]? with
      | none => rfl
      | some statement => exact holding.connection_calling holding.connection_keep state
  | bind position _ _ | releaseStatement position =>
      simp only [perform, Holding.onStatement]
      cases holding.statements[position]? <;> rfl

/-! ## Operations -/

theorem Operation.perform_act {apis : ι → Api σ} {caller : Caller σ} {position : Nat}
    {holding : Holding σ} {action : Action} (found : caller.holdings[position]? = some holding) :
    (Operation.act position action).perform apis caller =
      ⟨(action.call holding caller.library).2,
        caller.holdings.set position (action.perform holding caller.library).1⟩ := by
  simp only [perform, found, Action.snd_call]
  rfl

/-- What is held after an operation was held before, was just opened, or was acted on. -/
theorem Operation.mem_perform {apis : ι → Api σ} {operation : Operation ι}
    {caller : Caller σ} {holding : Holding σ}
    (member : holding ∈ (operation.perform apis caller).holdings) :
    holding ∈ caller.holdings ∨
      (∃ library connection, holding = ⟨connection, [], []⟩ ∧ connection.api = apis library) ∨
      ∃ (position : Nat) (action : Action) (held : Holding σ),
        caller.holdings[position]? = some held ∧
        holding = (action.perform held caller.library).1 ∧
        (operation.perform apis caller).library = (action.perform held caller.library).2 := by
  cases operation with
  | openDatabase library address options =>
      simp only [perform] at member
      split at member
      · next connection reached opened =>
          rcases List.mem_append.1 member with earlier | new
          · exact .inl earlier
          · exact .inr (.inl ⟨library, connection, List.mem_singleton.1 new,
              Connection.api_of_openDatabase opened⟩)
      · exact .inl member
  | closeDatabase position =>
      simp only [perform] at member
      split at member
      · exact .inl (List.mem_of_mem_eraseIdx member)
      · exact .inl member
  | act position action =>
      simp only [perform] at member ⊢
      cases found : caller.holdings[position]? with
      | none =>
          rw [found] at member
          exact .inl member
      | some held =>
          rw [found] at member
          rcases List.mem_or_eq_of_mem_set member with earlier | same
          · exact .inl earlier
          · exact .inr (.inr ⟨position, action, held, found, same, rfl⟩)

/-! ## What is held is owed -/

namespace Holding

variable (holding : Holding σ)

theorem connection_mem_loans : holding.connection.loan ∈ holding.loans :=
  Multiset.mem_add.2 (.inl (Multiset.mem_singleton_self _))

theorem result_mem_loans {result : ResultSet σ} (member : result ∈ holding.results) :
    result.loan ∈ holding.loans := by
  refine Multiset.mem_add.2 (.inr (Multiset.mem_add.2 (.inl ?_)))
  rw [resultLoans, List.sum_map_singleton]
  exact Multiset.mem_coe.2 (List.mem_map_of_mem member)

theorem statement_mem_loans {statement : PreparedStatement σ}
    (member : statement ∈ holding.statements) : statement.loan ∈ holding.loans := by
  refine Multiset.mem_add.2 (.inr (Multiset.mem_add.2 (.inr ?_)))
  rw [statementLoans, List.sum_map_singleton]
  exact Multiset.mem_coe.2 (List.mem_map_of_mem member)

end Holding

theorem Caller.mem_loans {caller : Caller σ} {holding : Holding σ}
    (member : holding ∈ caller.holdings) {loan : Loan} (there : loan ∈ holding.loans) :
    loan ∈ caller.loans := by
  obtain ⟨position, found⟩ := List.mem_iff_getElem?.1 member
  rw [loans, ← List.sum_map_eraseIdx found Holding.loans]
  exact Multiset.mem_add.2 (.inl there)

end ColumnStore
