import ColumnStore.Proofs.Client.Loans
import ColumnStore.Proofs.Lists
import ColumnStore.Session.Step

/-!
# Callers

A caller holds open databases, and for each of them the results and statements of it that are
alive (`Holding`). What a caller may do is limited by that: a database cannot be closed while
something of it is alive, and what is alive of it can only be used through it. Within these
limits a caller does anything in any order (`Operation`), and every call may fail. What is
dropped is closed or released, its failure unseen.

What a caller owes is what it holds (`Caller.loans`). A library that keeps up what is owed keeps
it up over every run (`Caller.accounted_run`).
-/

set_option autoImplicit false

namespace ColumnStore

variable {σ α ι : Type}

/-! ## What a caller holds and does -/

/-- An open database, and what is alive of it. -/
structure Holding (σ : Type) where
  connection : Connection σ
  results : List (ResultSet σ)
  statements : List (PreparedStatement σ)

namespace Holding

/-- Rows are kept. -/
def keep (holding : Holding σ) : Outcome σ → Holding σ
  | .rows result => { holding with results := holding.results ++ [result] }
  | .updated _ => holding

/-- Make a call, and take over its answer if it succeeds. -/
def calling (holding : Holding σ) (call : Call σ α) (take : α → Holding σ) :
    StateM σ (Holding σ) := fun state =>
  match call state with
  | (.ok answer, state) => (take answer, state)
  | (.error _, state) => (holding, state)

/-- Go on with the result at a position, if there is one. -/
def onResult (holding : Holding σ) (position : Nat)
    (go : ResultSet σ → StateM σ (Holding σ)) : StateM σ (Holding σ) :=
  match holding.results[position]? with
  | some result => go result
  | none => pure holding

/-- Go on with the statement at a position, if there is one. -/
def onStatement (holding : Holding σ) (position : Nat)
    (go : PreparedStatement σ → StateM σ (Holding σ)) : StateM σ (Holding σ) :=
  match holding.statements[position]? with
  | some statement => go statement
  | none => pure holding

end Holding

/-- What is done with an open database and what is alive of it. -/
inductive Action
  | lastError
  | autocommit
  | setAutocommit (enabled : Bool)
  | query (text : String) (options : QueryOptions)
  | fetchAll (result : Nat)
  | closeResult (result : Nat)
  | prepare (text : String)
  | bind (statement index : Nat) (binding : Binding)
  | execute (statement : Nat) (options : QueryOptions)
  | releaseStatement (statement : Nat)

/-- What is held after an action. A result or a statement is gone once it was closed or
released, whether or not this failed. -/
def Action.perform (action : Action) (holding : Holding σ) : StateM σ (Holding σ) :=
  match action with
  | lastError => do
      let _ ← holding.connection.lastError
      return holding
  | autocommit => holding.calling holding.connection.autocommit fun _ => holding
  | setAutocommit enabled =>
      holding.calling (holding.connection.setAutocommit enabled) fun _ => holding
  | query text options => holding.calling (holding.connection.query text options) holding.keep
  | fetchAll position =>
      holding.onResult position fun result =>
        holding.calling result.fetchAll fun _ =>
          { holding with results := holding.results.set position result.markFetched }
  | closeResult position =>
      holding.onResult position fun result => do
        let _ ← result.close.run
        return { holding with results := holding.results.eraseIdx position }
  | prepare text =>
      holding.calling (holding.connection.prepare text) fun statement =>
        { holding with statements := holding.statements ++ [statement] }
  | bind position index binding =>
      holding.onStatement position fun statement => do
        let (_, bound) ← binding.update index statement
        return { holding with statements := holding.statements.set position bound }
  | execute position options =>
      holding.onStatement position fun statement =>
        holding.calling (statement.execute options) holding.keep
  | releaseStatement position =>
      holding.onStatement position fun statement => do
        let _ ← statement.release.run
        return { holding with statements := holding.statements.eraseIdx position }

/-- What a caller does. A database is opened through one of several libraries. -/
inductive Operation (ι : Type)
  | openDatabase (library : ι) (address : Option String) (options : Options)
  | closeDatabase (database : Nat)
  | act (database : Nat) (action : Action)

/-- A caller, with the state of the libraries behind what it holds. -/
structure Caller (σ : Type) where
  library : σ
  holdings : List (Holding σ)

namespace Caller

/-- A caller who holds nothing. -/
def start (library : σ) : Caller σ :=
  ⟨library, []⟩

end Caller

/-- What a caller holds after an operation. A database is not closed while something of it is
alive. -/
def Operation.perform (apis : ι → Api σ) (operation : Operation ι) (caller : Caller σ) :
    Caller σ :=
  match operation with
  | openDatabase library address options =>
      match Connection.openDatabase (apis library) address options caller.library with
      | (.ok connection, library) => ⟨library, caller.holdings ++ [⟨connection, [], []⟩]⟩
      | (.error _, library) => { caller with library }
  | closeDatabase position =>
      match caller.holdings[position]? with
      | some ⟨connection, [], []⟩ =>
          ⟨(connection.close caller.library).2, caller.holdings.eraseIdx position⟩
      | _ => caller
  | act position action =>
      match caller.holdings[position]? with
      | some holding =>
          let (changed, library) := action.perform holding caller.library
          ⟨library, caller.holdings.set position changed⟩
      | none => caller

/-- What a caller holds after some operations, one after the other. -/
def Caller.run (apis : ι → Api σ) (operations : List (Operation ι)) (caller : Caller σ) :
    Caller σ :=
  operations.foldl (fun caller operation => operation.perform apis caller) caller

/-! ## What a caller owes -/

namespace Holding

/-- The results that are alive. -/
def resultLoans (holding : Holding σ) : Multiset Loan :=
  (holding.results.map fun result => {result.loan}).sum

/-- The statements that are alive. -/
def statementLoans (holding : Holding σ) : Multiset Loan :=
  (holding.statements.map fun statement => {statement.loan}).sum

/-- A database and what is alive of it. -/
def loans (holding : Holding σ) : Multiset Loan :=
  {holding.connection.loan} + (holding.resultLoans + holding.statementLoans)

/-- What is alive belongs to the database, whose library keeps up what is owed; all results
have columns. -/
structure Sound (owes : Multiset Loan → σ → Prop) (holding : Holding σ) : Prop where
  accounts : holding.connection.api.Accounts owes
  results : ∀ result ∈ holding.results,
    result.connection = holding.connection ∧ 0 < result.columnCount
  statements : ∀ statement ∈ holding.statements, statement.connection = holding.connection

end Holding

/-- Everything a caller holds. -/
def Caller.loans (caller : Caller σ) : Multiset Loan :=
  (caller.holdings.map Holding.loans).sum

/-- What is held is sound, and all of it is owed. -/
structure Caller.Accounted (owes : Multiset Loan → σ → Prop) (caller : Caller σ) : Prop where
  sound : ∀ holding ∈ caller.holdings, holding.Sound owes
  owed : owes caller.loans caller.library

/-! ## Bindings -/

namespace PreparedStatement

variable {owes : Multiset Loan → σ → Prop}

/-- Every binding is one with some datum. -/
theorem exists_bindWith (index : Nat) (binding : Binding) :
    ∃ datum : PreparedStatement σ → Nat → Call σ NativeDatum,
      binding.update index = bindWith index datum ∧
      ∀ (owes : Multiset Loan → σ → Prop) (statement : PreparedStatement σ),
        statement.connection.api.Accounts owes → ∀ slot,
          Trades owes (datum statement slot) 0 (Loan.either (fun _ => 0) 0) := by
  cases binding with
  | value given =>
      refine ⟨_, rfl, fun owes statement accounts slot => ?_⟩
      split
      · exact Api.trades_nullValue accounts _ _
      · exact Trades.settle _
  | null => exact ⟨_, rfl, fun _ _ accounts _ => Api.trades_nullValue accounts _ _⟩
  | blob | date | time | timestamp => exact ⟨_, rfl, fun _ _ _ _ => Trades.settle _⟩

/-- Binding hands out nothing. -/
theorem trades_update {statement : PreparedStatement σ}
    (accounts : statement.connection.api.Accounts owes) (index : Nat) (binding : Binding) :
    Trades owes (binding.update index statement) 0 fun _ => 0 := by
  obtain ⟨datum, same, made⟩ := exists_bindWith index binding
  rw [same]
  exact trades_bindWith accounts index (made owes statement accounts)

/-- A statement that is bound is a statement of the same database. -/
theorem connection_update (statement : PreparedStatement σ) (index : Nat) (binding : Binding)
    (state : σ) :
    (binding.update index statement state).1.2.connection = statement.connection := by
  obtain ⟨datum, same, _⟩ := exists_bindWith index binding
  rw [same]
  exact connection_bindWith ..

theorem loan_update (statement : PreparedStatement σ) (index : Nat) (binding : Binding)
    (state : σ) : (binding.update index statement state).1.2.loan = statement.loan := by
  obtain ⟨datum, same, _⟩ := exists_bindWith index binding
  rw [same]
  exact congrArg Loan.statement (handle_bindWith ..)

end PreparedStatement

/-! ## Actions -/

namespace Holding

variable {owes : Multiset Loan → σ → Prop} {holding : Holding σ}

theorem loans_bare (connection : Connection σ) :
    Holding.loans ⟨connection, [], []⟩ = {connection.loan} := by
  simp [loans, resultLoans, statementLoans]

theorem loans_keep (holding : Holding σ) (outcome : Outcome σ) :
    (holding.keep outcome).loans = outcome.loans + holding.loans := by
  cases outcome with
  | updated count => exact (zero_add _).symm
  | rows result =>
      simp only [keep, loans, resultLoans, statementLoans, Outcome.loans, List.map_append,
        List.sum_append, List.map_cons, List.map_nil, List.sum_cons, List.sum_nil, add_zero]
      ac_rfl

theorem loans_addStatement (holding : Holding σ) (statement : PreparedStatement σ) :
    Holding.loans { holding with statements := holding.statements ++ [statement] } =
      {statement.loan} + holding.loans := by
  simp only [loans, resultLoans, statementLoans, List.map_append, List.sum_append, List.map_cons,
    List.map_nil, List.sum_cons, List.sum_nil, add_zero]
  ac_rfl

/-- A call that hands out what its answer is taken for. -/
theorem trades_calling {call : Call σ α} {take : α → Holding σ} {gain : α → Multiset Loan}
    (trades : Trades owes call {holding.connection.loan}
      (Loan.either (fun answer => gain answer + {holding.connection.loan})
        {holding.connection.loan}))
    (taken : ∀ answer, (take answer).loans = gain answer + holding.loans) :
    Trades owes (holding.calling call take) holding.loans loans := by
  intro others state owed
  have kept := trades.frame (holding.resultLoans + holding.statementLoans) others state owed
  unfold calling
  generalize call state = run at kept ⊢
  obtain ⟨outcome, reached⟩ := run
  cases outcome with
  | error error => exact kept
  | ok answer =>
      show owes ((take answer).loans + others) reached
      rw [taken]
      simp only [Loan.either, loans, add_assoc] at kept ⊢
      exact kept

/-- A call that hands out nothing. -/
theorem trades_calling_idle {call : Call σ α} {take : α → Holding σ}
    (trades : Trades owes call 0 (Loan.either (fun _ => 0) 0))
    (taken : ∀ answer, (take answer).loans = holding.loans) :
    Trades owes (holding.calling call take) holding.loans loans := by
  have gained : Trades owes call {holding.connection.loan}
      (Loan.either (fun _ => 0 + {holding.connection.loan}) {holding.connection.loan}) := by
    have framed := trades.frame_either {holding.connection.loan}
    simpa only [zero_add] using framed
  exact trades_calling gained fun answer => (taken answer).trans (zero_add _).symm

theorem trades_onResult {position : Nat} {go : ResultSet σ → StateM σ (Holding σ)}
    (each : ∀ result, holding.results[position]? = some result →
      Trades owes (go result) holding.loans loans) :
    Trades owes (holding.onResult position go) holding.loans loans := by
  unfold onResult
  split
  · next found => exact each _ found
  · exact fun _ _ owed => owed

theorem trades_onStatement {position : Nat} {go : PreparedStatement σ → StateM σ (Holding σ)}
    (each : ∀ statement, holding.statements[position]? = some statement →
      Trades owes (go statement) holding.loans loans) :
    Trades owes (holding.onStatement position go) holding.loans loans := by
  unfold onStatement
  split
  · next found => exact each _ found
  · exact fun _ _ owed => owed

/-- A result that is marked is owed as before. -/
theorem loans_setResult {position : Nat} {result changed : ResultSet σ}
    (found : holding.results[position]? = some result) (same : changed.loan = result.loan) :
    Holding.loans { holding with results := holding.results.set position changed } =
      holding.loans := by
  have others : ((holding.results.set position changed).map fun result =>
      ({result.loan} : Multiset Loan)).sum = holding.resultLoans :=
    List.sum_map_set_same found (by rw [same])
  unfold loans
  rw [resultLoans, others]
  rfl

/-- A statement that is bound is owed as before. -/
theorem loans_setStatement {position : Nat} {statement changed : PreparedStatement σ}
    (found : holding.statements[position]? = some statement)
    (same : changed.loan = statement.loan) :
    Holding.loans { holding with statements := holding.statements.set position changed } =
      holding.loans := by
  have others : ((holding.statements.set position changed).map fun statement =>
      ({statement.loan} : Multiset Loan)).sum = holding.statementLoans :=
    List.sum_map_set_same found (by rw [same])
  unfold loans
  rw [statementLoans, others]
  rfl

/-- A result that is let go was owed, and the rest is owed still. -/
theorem loans_eraseResult {position : Nat} {result : ResultSet σ}
    (found : holding.results[position]? = some result) :
    {result.loan} +
        Holding.loans { holding with results := holding.results.eraseIdx position } =
      holding.loans := by
  have whole : {result.loan} +
      resultLoans { holding with results := holding.results.eraseIdx position } =
        holding.resultLoans :=
    List.sum_map_eraseIdx found fun result => ({result.loan} : Multiset Loan)
  unfold loans
  rw [← whole]
  simp only [statementLoans]
  ac_rfl

theorem loans_eraseStatement {position : Nat} {statement : PreparedStatement σ}
    (found : holding.statements[position]? = some statement) :
    {statement.loan} +
        Holding.loans { holding with statements := holding.statements.eraseIdx position } =
      holding.loans := by
  have whole : {statement.loan} +
      statementLoans { holding with statements := holding.statements.eraseIdx position } =
        holding.statementLoans :=
    List.sum_map_eraseIdx found fun statement => ({statement.loan} : Multiset Loan)
  unfold loans
  rw [← whole]
  simp only [resultLoans]
  ac_rfl

/-- Something is let go through the database. -/
theorem trades_lettingGo {release : Call σ Unit} {loan : Loan} {left : Holding σ}
    (trades : Trades owes release ({loan} + {holding.connection.loan})
      fun _ => {holding.connection.loan})
    (same : left.connection = holding.connection) (whole : {loan} + left.loans = holding.loans) :
    Trades owes (do let _ ← release.run; return left : StateM σ (Holding σ)) holding.loans
      loans := by
  have released : Trades owes release holding.loans fun _ => left.loans := by
    rw [← whole]
    refine (trades.frame (left.resultLoans + left.statementLoans)).congr ?_ fun _ => ?_
    · rw [loans, same, add_assoc]
    · rw [loans, same]
  exact released

end Holding

/-- **An action keeps up what is owed.** -/
theorem Action.trades_perform {owes : Multiset Loan → σ → Prop} {holding : Holding σ}
    (sound : holding.Sound owes) (action : Action) :
    Trades owes (action.perform holding) holding.loans Holding.loans := by
  have accounts := sound.accounts
  cases action with
  | lastError => exact (Api.trades_lastError accounts _).idle _
  | autocommit => exact Holding.trades_calling_idle (Api.trades_autocommit accounts _) fun _ => rfl
  | setAutocommit enabled =>
      exact Holding.trades_calling_idle (Api.trades_setAutocommit accounts _ enabled) fun _ => rfl
  | query text options =>
      exact Holding.trades_calling (Connection.trades_query accounts text options)
        holding.loans_keep
  | fetchAll position =>
      refine Holding.trades_onResult fun result found => ?_
      obtain ⟨same, _⟩ := sound.results result (List.mem_of_getElem? found)
      have shared : result.connection.api.Accounts owes := same ▸ accounts
      exact Holding.trades_calling_idle (ResultSet.trades_fetchAll shared) fun _ =>
        Holding.loans_setResult found rfl
  | closeResult position =>
      refine Holding.trades_onResult fun result found => ?_
      obtain ⟨same, _⟩ := sound.results result (List.mem_of_getElem? found)
      have shared : result.connection.api.Accounts owes := same ▸ accounts
      have closed := ResultSet.trades_close shared
      rw [same] at closed
      exact Holding.trades_lettingGo closed rfl (Holding.loans_eraseResult found)
  | prepare text =>
      exact Holding.trades_calling (Connection.trades_prepare accounts text)
        holding.loans_addStatement
  | bind position index binding =>
      refine Holding.trades_onStatement fun statement found others state owed => ?_
      have same := sound.statements statement (List.mem_of_getElem? found)
      have shared : statement.connection.api.Accounts owes := same ▸ accounts
      have bound := (PreparedStatement.trades_update shared index binding).idle _ others state owed
      have kept := Holding.loans_setStatement found
        (PreparedStatement.loan_update statement index binding state)
      exact kept ▸ bound
  | execute position options =>
      refine Holding.trades_onStatement fun statement found => ?_
      have same := sound.statements statement (List.mem_of_getElem? found)
      have shared : statement.connection.api.Accounts owes := same ▸ accounts
      have ran := PreparedStatement.trades_execute shared options
      rw [same] at ran
      exact Holding.trades_calling ran holding.loans_keep
  | releaseStatement position =>
      refine Holding.trades_onStatement fun statement found => ?_
      have same := sound.statements statement (List.mem_of_getElem? found)
      have shared : statement.connection.api.Accounts owes := same ▸ accounts
      have released := PreparedStatement.trades_release shared
      rw [same] at released
      exact Holding.trades_lettingGo released rfl (Holding.loans_eraseStatement found)

/-! ## Runs -/

namespace Holding

variable {owes : Multiset Loan → σ → Prop} {holding : Holding σ}

/-- A database that was just opened. -/
theorem Sound.bare {connection : Connection σ} (accounts : connection.api.Accounts owes) :
    Holding.Sound owes ⟨connection, [], []⟩ := by
  refine ⟨accounts, fun result member => ?_, fun statement member => ?_⟩ <;> cases member

/-- Rows that are kept have columns, and belong to the connection that they came over. -/
theorem Sound.keep (sound : holding.Sound owes) {outcome : Outcome σ}
    (handed : ∀ result, outcome = .rows result →
      result.connection = holding.connection ∧ 0 < result.columnCount) :
    (holding.keep outcome).Sound owes := by
  cases outcome with
  | updated count => exact sound
  | rows result =>
      refine ⟨sound.accounts, fun kept member => ?_, sound.statements⟩
      rcases List.mem_append.1 member with earlier | new
      · exact sound.results kept earlier
      · exact handed kept (congrArg Outcome.rows (List.mem_singleton.1 new).symm)

theorem Sound.setResult (sound : holding.Sound owes) {position : Nat} {result : ResultSet σ}
    (found : holding.results[position]? = some result) :
    Holding.Sound owes
      { holding with results := holding.results.set position result.markFetched } := by
  refine ⟨sound.accounts, fun kept member => ?_, sound.statements⟩
  rcases List.mem_or_eq_of_mem_set member with earlier | rfl
  · exact sound.results kept earlier
  · exact sound.results result (List.mem_of_getElem? found)

/-- What a call is taken for is sound, or the call failed. -/
theorem sound_calling (sound : holding.Sound owes) {call : Call σ α} {take : α → Holding σ}
    {state : σ}
    (taken : ∀ answer final, call state = (.ok answer, final) → (take answer).Sound owes) :
    (holding.calling call take state).1.Sound owes := by
  unfold calling
  split
  · next answered => exact taken _ _ answered
  · exact sound

theorem sound_onResult (sound : holding.Sound owes) {position : Nat} {state : σ}
    {go : ResultSet σ → StateM σ (Holding σ)}
    (each : ∀ result, holding.results[position]? = some result →
      (go result state).1.Sound owes) : (holding.onResult position go state).1.Sound owes := by
  unfold onResult
  cases found : holding.results[position]? with
  | some result => exact each result found
  | none => exact sound

theorem sound_onStatement (sound : holding.Sound owes) {position : Nat} {state : σ}
    {go : PreparedStatement σ → StateM σ (Holding σ)}
    (each : ∀ statement, holding.statements[position]? = some statement →
      (go statement state).1.Sound owes) :
    (holding.onStatement position go state).1.Sound owes := by
  unfold onStatement
  cases found : holding.statements[position]? with
  | some statement => exact each statement found
  | none => exact sound

end Holding

/-- Rows come over the connection that the statement was run on. -/
theorem Connection.rows_of_query {connection : Connection σ} {text : String}
    {options : QueryOptions} {result : ResultSet σ} {state final : σ}
    (answered : connection.query text options state = (.ok (.rows result), final)) :
    result.connection = connection ∧ 0 < result.columnCount := by
  obtain ⟨_, _, _, answered⟩ := Call.bind_eq_ok.1 answered
  obtain ⟨_, _, _, answered⟩ := Call.bind_eq_ok.1 answered
  obtain ⟨_, columns, same, _⟩ := Outcome.ofExecuted_rows answered
  exact ⟨same, columns⟩

theorem PreparedStatement.rows_of_execute {statement : PreparedStatement σ}
    {options : QueryOptions} {result : ResultSet σ} {state final : σ}
    (answered : statement.execute options state = (.ok (.rows result), final)) :
    result.connection = statement.connection ∧ 0 < result.columnCount := by
  obtain ⟨_, _, _, answered⟩ := Call.bind_eq_ok.1 answered
  obtain ⟨_, columns, same, _⟩ := Outcome.ofExecuted_rows answered
  exact ⟨same, columns⟩

theorem Connection.connection_of_prepare {connection : Connection σ} {text : String}
    {statement : PreparedStatement σ} {state final : σ}
    (answered : connection.prepare text state = (.ok statement, final)) :
    statement.connection = connection := by
  obtain ⟨_, _, _, answered⟩ := Call.bind_eq_ok.1 answered
  obtain ⟨⟨live, description⟩, _, _, answered⟩ := Call.bind_eq_ok.1 answered
  obtain ⟨_, _, _, answered⟩ := Call.bind_eq_ok.1 (Call.tryCatch_eq_ok answered)
  cases description with
  | none | some _ =>
      obtain ⟨_, _, _, answered⟩ := Call.bind_eq_ok.1 answered
      cases answered
      rfl

theorem Connection.api_of_openDatabase {api : Api σ} {address : Option String} {options : Options}
    {connection : Connection σ} {state final : σ}
    (opened : openDatabase api address options state = (.ok connection, final)) :
    connection.api = api := by
  obtain ⟨_, _, _, opened⟩ := Call.bind_eq_ok.1 opened
  obtain ⟨_, _, _, opened⟩ := Call.bind_eq_ok.1 opened
  obtain ⟨handle, _, _, opened⟩ := Call.bind_eq_ok.1 opened
  unfold applySettings at opened
  split at opened
  · cases opened
    rfl
  · obtain ⟨_, _, _, applied⟩ := Call.bind_eq_ok.1 (Call.tryCatch_eq_ok opened)
    cases applied
    rfl

/-- **An action leaves what is held sound.** -/
theorem Action.sound_perform {owes : Multiset Loan → σ → Prop} {holding : Holding σ}
    (sound : holding.Sound owes) (action : Action) (state : σ) :
    (action.perform holding state).1.Sound owes := by
  cases action with
  | lastError => exact sound
  | autocommit => exact Holding.sound_calling sound fun _ _ _ => sound
  | setAutocommit enabled => exact Holding.sound_calling sound fun _ _ _ => sound
  | query text options =>
      refine Holding.sound_calling sound fun outcome final answered => sound.keep ?_
      rintro result rfl
      exact Connection.rows_of_query answered
  | fetchAll position =>
      refine Holding.sound_onResult sound fun result found => ?_
      exact Holding.sound_calling sound fun _ _ _ => sound.setResult found
  | closeResult position =>
      refine Holding.sound_onResult sound fun result found => ⟨sound.accounts, ?_, sound.statements⟩
      exact fun kept member => sound.results kept (List.mem_of_mem_eraseIdx member)
  | prepare text =>
      refine Holding.sound_calling sound fun statement final answered => ?_
      refine ⟨sound.accounts, sound.results, fun kept member => ?_⟩
      rcases List.mem_append.1 member with earlier | new
      · exact sound.statements kept earlier
      · rw [List.mem_singleton.1 new]
        exact Connection.connection_of_prepare answered
  | bind position index binding =>
      refine Holding.sound_onStatement sound fun statement found => ?_
      refine ⟨sound.accounts, sound.results, fun kept member => ?_⟩
      rcases List.mem_or_eq_of_mem_set member with earlier | rfl
      · exact sound.statements kept earlier
      · exact (PreparedStatement.connection_update statement index binding state).trans
          (sound.statements statement (List.mem_of_getElem? found))
  | execute position options =>
      refine Holding.sound_onStatement sound fun statement found => ?_
      refine Holding.sound_calling sound fun outcome final answered => sound.keep ?_
      rintro result rfl
      rw [← sound.statements statement (List.mem_of_getElem? found)]
      exact PreparedStatement.rows_of_execute answered
  | releaseStatement position =>
      refine Holding.sound_onStatement sound fun statement found =>
        ⟨sound.accounts, sound.results, ?_⟩
      exact fun kept member => sound.statements kept (List.mem_of_mem_eraseIdx member)

namespace Caller

variable {owes : Multiset Loan → σ → Prop} {apis : ι → Api σ} {caller : Caller σ}

theorem accounted_start {library : σ} (nothing : owes 0 library) :
    (start library).Accounted owes := by
  refine ⟨fun holding member => ?_, nothing⟩
  cases member

/-- **An operation keeps up what is owed.** -/
theorem Accounted.perform (accounted : caller.Accounted owes)
    (accounts : ∀ library, (apis library).Accounts owes) (operation : Operation ι) :
    (operation.perform apis caller).Accounted owes := by
  obtain ⟨sound, owed⟩ := accounted
  cases operation with
  | openDatabase library address options =>
      have kept := Connection.trades_openDatabase (accounts library) address options caller.loans
        caller.library (by rwa [zero_add])
      simp only [Operation.perform]
      split
      · next connection reached opened =>
          rw [opened] at kept
          refine ⟨fun holding member => ?_, ?_⟩
          · rcases List.mem_append.1 member with earlier | new
            · exact sound holding earlier
            · rw [List.mem_singleton.1 new]
              exact .bare (Connection.api_of_openDatabase opened ▸ accounts library)
          · rwa [loans, List.map_append, List.sum_append, List.map_singleton, List.sum_singleton,
              Holding.loans_bare, add_comm]
      · next opened =>
          rw [opened] at kept
          refine ⟨sound, ?_⟩
          rwa [Loan.either, zero_add] at kept
  | closeDatabase position =>
      simp only [Operation.perform]
      split
      · next connection found =>
          refine ⟨fun other member => sound other (List.mem_of_mem_eraseIdx member), ?_⟩
          have held := sound _ (List.mem_of_getElem? found)
          rw [loans, ← List.sum_map_eraseIdx found Holding.loans, Holding.loans_bare] at owed
          have closed := Api.trades_closeDatabase held.accounts connection.handle _ _ owed
          rwa [zero_add] at closed
      · exact ⟨sound, owed⟩
  | act position action =>
      simp only [Operation.perform]
      split
      · next holding found =>
          have held := sound holding (List.mem_of_getElem? found)
          refine ⟨fun other member => ?_, ?_⟩
          · rcases List.mem_or_eq_of_mem_set member with earlier | rfl
            · exact sound other earlier
            · exact action.sound_perform held caller.library
          · rw [loans, ← List.sum_map_eraseIdx found Holding.loans] at owed
            have kept := action.trades_perform held _ caller.library owed
            show owes ((caller.holdings.set position _).map Holding.loans).sum _
            rwa [List.sum_map_set found]
      · exact ⟨sound, owed⟩

/-- **Every run keeps up what is owed**: it is what the caller holds. -/
theorem Accounted.run (accounts : ∀ library, (apis library).Accounts owes)
    (operations : List (Operation ι)) (accounted : caller.Accounted owes) :
    (caller.run apis operations).Accounted owes := by
  induction operations generalizing caller with
  | nil => exact accounted
  | cons operation rest ih => exact ih (accounted.perform accounts operation)

end Caller

end ColumnStore
