import ColumnStore.Client.Statement
import ColumnStore.Proofs.Client.Call
import Mathlib.Algebra.Order.Group.Multiset

/-!
# What the client owes

A library hands out databases, results and statements, and each of them has to be given back.
What the client owes is a multiset of handles, since nothing keeps a library from handing out
the same handle twice. What this means for the state of a library is left open: it is any
relation that the entries keep up when they hand out and take back (`Api.Accounts`). The calls
of the client are then accounted for one by one. A call is described by what it needs to find
owed and what it leaves owed, whatever else is owed (`Trades`).

One thing is not accounted for. A description that comes with a statement is released once it
has been read, but it is not looked at if there is no statement or if a type tag of the
statement names no type, and it is not released if reading it stops the program; nobody owes it
then. This is said in `Prepared.loans` and nowhere else. Whether reading a description will stop
the program is decided by what the library is going to answer, so the library is asked ahead
(`Api.foreseeing`).
-/

set_option autoImplicit false

namespace ColumnStore

variable {σ α β : Type}

/-! ## Loans -/

/-- An object that was handed out and has to be given back; a database with the numbering of
type tags under which it was opened. -/
inductive Loan
  | database (layout : TagLayout) (handle : Handle .database)
  | result (handle : Handle .result)
  | statement (handle : Handle .statement)
  deriving DecidableEq

namespace Loan

/-- The kind of object. -/
def resource : Loan → Resource
  | database .. => .database
  | result _ => .result
  | statement _ => .statement

/-- The database that was stored, if there is one. -/
def ofDatabase (layout : TagLayout) (stored : Option (Handle .database)) : Multiset Loan :=
  (stored.map (database layout)).toList

/-- The result that was stored, if there is one. -/
def ofResult (stored : Option LiveResult) : Multiset Loan :=
  (stored.map fun live => result live.handle).toList

/-- The statement that was stored, if there is one. -/
def ofStatement (stored : Option LiveStatement) : Multiset Loan :=
  (stored.map fun live => statement live.handle).toList

/-- What is owed after an attempt. -/
def either {ε : Type} (success : α → Multiset Loan) (failure : Multiset Loan) :
    Except ε α → Multiset Loan
  | .ok answer => success answer
  | .error _ => failure

@[simp] theorem either_const {ε : Type} (loans : Multiset Loan) (outcome : Except ε α) :
    either (fun _ => loans) loans outcome = loans := by
  cases outcome <;> rfl

@[simp] theorem ofDatabase_none (layout : TagLayout) : ofDatabase layout none = 0 := rfl

@[simp] theorem ofDatabase_some (layout : TagLayout) (handle : Handle .database) :
    ofDatabase layout (some handle) = {database layout handle} := rfl

@[simp] theorem ofResult_none : ofResult none = 0 := rfl

@[simp] theorem ofResult_some (live : LiveResult) :
    ofResult (some live) = {result live.handle} := rfl

@[simp] theorem ofStatement_none : ofStatement none = 0 := rfl

@[simp] theorem ofStatement_some (live : LiveStatement) :
    ofStatement (some live) = {statement live.handle} := rfl

end Loan

/-- Every type tag that a statement shows names a type. -/
def LiveStatement.readable (layout : TagLayout) (live : LiveStatement) : Bool :=
  (PreparedStatement.typesOfTags layout (PreparedStatement.shownTags live)).isOk

/-- The description of a statement, which is owed if the statement's tags are readable and the
program does not stop before it is read. -/
def LiveStatement.description (layout : TagLayout) (stops : Bool) (live : LiveStatement)
    (description : Option LiveResult) : Multiset Loan :=
  if live.readable layout && !stops then Loan.ofResult description else 0

namespace LiveStatement

variable {layout : TagLayout} {live : LiveStatement}

theorem description_of_readable (readable : live.readable layout = true) (stops : Bool)
    (description : Option LiveResult) :
    live.description layout stops description =
      if stops = true then 0 else Loan.ofResult description := by
  rw [LiveStatement.description, readable]
  cases stops <;> rfl

theorem description_of_unreadable (unreadable : live.readable layout = false) (stops : Bool)
    (description : Option LiveResult) : live.description layout stops description = 0 := by
  rw [LiveStatement.description, unreadable]
  rfl

theorem description_le (stops : Bool) (description : Option LiveResult) :
    live.description layout stops description ≤ Loan.ofResult description := by
  unfold LiveStatement.description
  split
  · exact le_refl _
  · exact Multiset.zero_le _

end LiveStatement

namespace Prepared

/-- What preparing a statement makes the client owe: nothing if there is no statement. -/
def loans (layout : TagLayout) (stops : Bool) (prepared : Prepared) : Multiset Loan :=
  match prepared.statement with
  | some live => {.statement live.handle} + live.description layout stops prepared.description
  | none => 0

end Prepared

namespace Api

/-- Reading the description stops the program. -/
def stops (api : Api σ) (description : Option LiveResult) (state : σ) : Bool :=
  description.any fun live =>
    match (api.metadata live state).1 with
    | .error .overflow => true
    | _ => false

theorem stops_some {api : Api σ} {description : LiveResult} {state : σ} :
    api.stops (some description) state = true ↔
      (api.metadata description state).1 = .error .overflow := by
  rw [stops, Option.any_some]
  split
  · next stopped => exact iff_of_true rfl stopped
  · next runs => exact iff_of_false Bool.false_ne_true runs

/-- Prepare a statement, and look ahead whether reading its description will stop the program. -/
def foreseeing (api : Api σ) (database : Option (Handle .database)) (text : Option NativeText) :
    StateM σ (Reply (Prepared × Bool)) := fun state =>
  match api.table.prepare database text state with
  | (.ok prepared, reached) => (.ok (prepared, api.stops prepared.description reached), reached)
  | (.error failure, reached) => (.error failure, reached)

section Foreseeing

variable {api : Api σ} {database : Option (Handle .database)} {text : Option NativeText}
  {state reached : σ}

theorem foreseeing_of_ok {prepared : Prepared}
    (handed : api.table.prepare database text state = (.ok prepared, reached)) :
    api.foreseeing database text state =
      (.ok (prepared, api.stops prepared.description reached), reached) := by
  rw [foreseeing, handed]

theorem foreseeing_of_error {failure : NativeText}
    (refused : api.table.prepare database text state = (.error failure, reached)) :
    api.foreseeing database text state = (.error failure, reached) := by
  rw [foreseeing, refused]

/-- Looking ahead leaves no trace. -/
theorem foreseeing_snd :
    (api.foreseeing database text state).2 = (api.table.prepare database text state).2 := by
  unfold foreseeing
  split <;> next prepared => rw [prepared]

end Foreseeing

end Api

/-! ## Accounts -/

/-- Whatever else is owed, an action finds some loans owed and leaves others. -/
def Trades (owes : Multiset Loan → σ → Prop) (action : StateM σ α) (before : Multiset Loan)
    (after : α → Multiset Loan) : Prop :=
  ∀ others state, owes (before + others) state →
    owes (after (action state).1 + others) (action state).2

/-- What an action leaves owed if it starts from one state. -/
def Leaves (owes : Multiset Loan → σ → Prop) (state : σ) (others : Multiset Loan)
    (action : StateM σ α) (after : α → Multiset Loan) : Prop :=
  owes (after (action state).1 + others) (action state).2

/-- A database that is open. -/
def Connection.loan (connection : Connection σ) : Loan :=
  .database connection.api.layout connection.handle

/-- A result that is alive. -/
def ResultSet.loan (result : ResultSet σ) : Loan :=
  .result result.native.handle

/-- A prepared statement that is alive. -/
def PreparedStatement.loan (statement : PreparedStatement σ) : Loan :=
  .statement statement.handle

/-- What is owed is kept up by every entry: what an entry hands out is owed from then on, and
what is given back no longer. A database that is used to give back an object is itself owed. -/
structure Api.Accounts (api : Api σ) (owes : Multiset Loan → σ → Prop) : Prop where
  openDatabase (url : Option NativeText) (options : Option NativeOptions) :
    Trades owes (api.table.openDatabase url options) 0
      fun answer => Loan.ofDatabase api.layout answer.2
  closeDatabase (database : Handle .database) :
    Trades owes (api.table.closeDatabase (some database)) {.database api.layout database}
      fun _ => 0
  lastError (database : Handle .database) :
    Trades owes (api.table.lastError (some database)) 0 fun _ => 0
  getAutocommit (database : Handle .database) :
    Trades owes (api.table.getAutocommit (some database)) 0 fun _ => 0
  setAutocommit (database : Handle .database) (value : Int32) :
    Trades owes (api.table.setAutocommit (some database) value) 0 fun _ => 0
  query (database : Handle .database) (text : NativeText) :
    Trades owes (api.table.query (some database) (some text)) 0
      (Loan.either (fun executed => Loan.ofResult executed.result) 0)
  resultFetch (result : Handle .result) (index : Nat) :
    Trades owes (api.table.resultFetch (some result) index) 0 fun _ => 0
  cleanupResult (database : Handle .database) (result : Handle .result) :
    Trades owes (api.table.cleanupResult (some database) (some result))
      ({.result result} + {.database api.layout database}) fun _ => {.database api.layout database}
  prepare (database : Handle .database) (text : NativeText) :
    Trades owes (api.foreseeing (some database) (some text)) {.database api.layout database}
      (Loan.either (fun answer =>
          answer.1.loans api.layout answer.2 + {.database api.layout database})
        {.database api.layout database})
  bind (statement : Handle .statement) (datum : NativeDatum) (index : Nat) :
    Trades owes (api.table.bind (some statement) (some datum) index) 0 fun _ => 0
  execute (statement : Handle .statement) :
    Trades owes (api.table.execute (some statement)) 0
      (Loan.either (fun executed => Loan.ofResult executed.result) 0)
  cleanupStatement (database : Handle .database) (statement : Handle .statement) :
    Trades owes (api.table.cleanupStatement (some database) (some statement))
      ({.statement statement} + {.database api.layout database})
      fun _ => {.database api.layout database}
  nullValue (database : Handle .database) (tag : Int32) :
    Trades owes (api.table.nullValue (some database) tag) 0 fun _ => 0
  writeCells (column : LiveColumn) (cells : ColumnCells) :
    Trades owes (api.table.writeCells column cells) 0 fun _ => 0

/-! ### From one state -/

section Leaves

variable {owes : Multiset Loan → σ → Prop} {before failure others : Multiset Loan}
  {after : α → Multiset Loan} {state : σ}

theorem leaves_of_trades {action : StateM σ α} (trades : Trades owes action before after)
    (owed : owes (before + others) state) : Leaves owes state others action after :=
  trades others state owed

/-- What was counted among the rest may be counted among what the action leaves. -/
theorem Leaves.congr {action : StateM σ α} {final : α → Multiset Loan} {rest : Multiset Loan}
    (leaves : Leaves owes state others action after)
    (same : ∀ answer, after answer + others = final answer + rest) :
    Leaves owes state rest action final := by
  unfold Leaves at leaves ⊢
  rwa [← same]

theorem Leaves.bind {first : Call σ α} {next : α → Call σ β} {final : β → Multiset Loan}
    (one : Leaves owes state others first (Loan.either after failure))
    (each : ∀ answer, Trades owes (next answer) (after answer) (Loan.either final failure)) :
    Leaves owes state others (first >>= next : Call σ β) (Loan.either final failure) := by
  unfold Leaves at one ⊢
  rcases run : first state with ⟨outcome, reached⟩
  rw [run] at one
  cases outcome with
  | ok answer =>
      rw [Call.bind_of_ok run]
      exact each answer others reached one
  | error error =>
      rw [Call.bind_of_error run]
      exact one

theorem Leaves.orAbandon {call : Call σ α} {release : Call σ β} {middle : Multiset Loan}
    (one : Leaves owes state others call (Loan.either after middle))
    (other : Trades owes release middle fun _ => failure) :
    Leaves owes state others (tryCatch call (Api.abandon release) : Call σ α)
      (Loan.either after failure) := by
  unfold Leaves at one ⊢
  rcases run : call state with ⟨outcome, reached⟩
  rw [run] at one
  simp only [tryCatch, tryCatchThe, MonadExceptOf.tryCatch, ExceptT.tryCatch, ExceptT.mk,
    Bind.bind, StateT.bind, run]
  cases outcome with
  | ok answer => exact one
  | error error => exact other others reached one

end Leaves

namespace Trades

variable {owes : Multiset Loan → σ → Prop} {before failure : Multiset Loan}
  {after : α → Multiset Loan}

/-- Owing the same, written differently. -/
theorem congr {action : StateM σ α} {start : Multiset Loan} {final : α → Multiset Loan}
    (trades : Trades owes action before after) (first : before = start)
    (last : ∀ answer, after answer = final answer) : Trades owes action start final := by
  obtain rfl : after = final := funext last
  rwa [← first]

/-- What an action does not look at stays owed. -/
theorem frame {action : StateM σ α} (trades : Trades owes action before after)
    (rest : Multiset Loan) :
    Trades owes action (before + rest) fun answer => after answer + rest := by
  intro others state owed
  rw [add_assoc] at owed
  have kept := trades (rest + others) state owed
  rwa [← add_assoc] at kept

/-- An action that hands out nothing and takes nothing back. -/
theorem idle {action : StateM σ α} (trades : Trades owes action 0 fun _ => 0)
    (rest : Multiset Loan) : Trades owes action rest fun _ => rest :=
  (trades.frame rest).congr (zero_add rest) fun _ => zero_add rest

/-- What an attempt does not look at stays owed, whether it succeeds or fails. -/
theorem frame_either {ε : Type} {action : StateM σ (Except ε α)}
    (trades : Trades owes action before (Loan.either after failure)) (rest : Multiset Loan) :
    Trades owes action (before + rest)
      (Loan.either (fun answer => after answer + rest) (failure + rest)) :=
  (trades.frame rest).congr rfl fun outcome => by cases outcome <;> rfl

/-- What is owed does not depend on whether an attempt succeeds. -/
theorem attempted {ε : Type} {action : StateM σ (Except ε α)}
    (trades : Trades owes action before fun _ => failure) :
    Trades owes action before (Loan.either (fun _ => failure) failure) :=
  trades.congr rfl fun outcome => (Loan.either_const failure outcome).symm

/-! ### Calls -/

theorem pure {answer : α} (kept : before = after answer) :
    Trades owes (Pure.pure answer : Call σ α) before (Loan.either after failure) := by
  intro others state owed
  rwa [kept] at owed

theorem throw (error : Error) :
    Trades owes (MonadExcept.throw error : Call σ α) failure (Loan.either after failure) :=
  fun _ _ owed => owed

theorem settle (outcome : Except Error α) :
    Trades owes (Api.settle outcome) before (Loan.either (fun _ => before) before) :=
  attempted fun _ _ owed => owed

theorem known (answer : α) : Trades owes (Api.settle (.ok answer)) before
    (Loan.either (fun _ => before) failure) :=
  fun _ _ owed => owed

theorem lift {action : StateM σ α} (trades : Trades owes action before after) :
    Trades owes (liftM action : Call σ α) before (Loan.either after failure) :=
  trades

/-- An object that has to be there. -/
theorem require {entry : EntryPoint} {missing : String} {stored : Option α}
    (given : ∀ object, stored = some object → before = after object)
    (absent : stored = none → before = failure) :
    Trades owes (Api.require entry missing stored) before (Loan.either after failure) := by
  cases stored with
  | some object =>
      rw [given object rfl]
      exact pure rfl
  | none =>
      rw [absent rfl]
      exact throw _

theorem check {entry : EntryPoint} {reply : StateM σ (Reply α)}
    (trades : Trades owes reply before (Loan.either after failure)) :
    Trades owes (Api.check entry reply) before (Loan.either after failure) := by
  intro others state owed
  have kept := trades others state owed
  rcases replied : reply state with ⟨outcome, next⟩
  rw [replied] at kept
  cases outcome with
  | ok answer =>
      rw [Api.check_of_ok replied]
      exact kept
  | error text =>
      rw [Api.check_of_error replied]
      exact kept

/-- One call after the other, the second only if the first succeeds. -/
theorem bind {first : Call σ α} {next : α → Call σ β} {final : β → Multiset Loan}
    (one : Trades owes first before (Loan.either after failure))
    (each : ∀ answer, Trades owes (next answer) (after answer) (Loan.either final failure)) :
    Trades owes (first >>= next : Call σ β) before (Loan.either final failure) :=
  fun _ _ owed => (leaves_of_trades one owed).bind each

/-- Giving up after a call for its effect alone. -/
theorem abandon {call : Call σ β} (error : Error)
    (trades : Trades owes call before fun _ => failure) :
    Trades owes (Api.abandon call error : Call σ α) before (Loan.either after failure) :=
  trades

/-- A call that gives up after another one if it fails. -/
theorem orAbandon {call : Call σ α} {release : Call σ β} {middle : Multiset Loan}
    (one : Trades owes call before (Loan.either after middle))
    (other : Trades owes release middle fun _ => failure) :
    Trades owes (tryCatch call (Api.abandon release) : Call σ α) before
      (Loan.either after failure) :=
  fun _ _ owed => (leaves_of_trades one owed).orAbandon other

theorem mapM {call : α → Call σ β}
    (each : ∀ element, Trades owes (call element) 0 (Loan.either (fun _ => 0) 0))
    (list : List α) :
    Trades owes (list.mapM call : Call σ (List β)) 0 (Loan.either (fun _ => 0) 0) := by
  induction list with
  | nil => exact fun _ _ owed => owed
  | cons element rest ih =>
      rw [List.mapM_cons]
      exact (each element).bind fun _ => ih.bind fun _ => pure rfl

end Trades

/-! ## Checked calls -/

section Checked

variable {api : Api σ} {owes : Multiset Loan → σ → Prop}

namespace Api

variable (accounts : api.Accounts owes)
include accounts

theorem trades_lastError (database : Handle .database) :
    Trades owes (api.lastError database) 0 fun _ => 0 :=
  accounts.lastError database

/-- A database that was asked to close is not owed, even if closing it failed. -/
theorem trades_closeDatabase (database : Handle .database) :
    Trades owes (api.closeDatabase database) {.database api.layout database} fun _ => 0 := by
  have closing : Trades owes (api.closeDatabase database) {.database api.layout database}
      (Loan.either (fun _ => 0) 0) := by
    refine (Trades.lift (accounts.closeDatabase database)).bind fun code => ?_
    split
    · refine (Trades.lift (trades_lastError accounts database)).bind fun reported => ?_
      exact Trades.throw _
    · exact Trades.pure rfl
  exact closing.congr rfl (Loan.either_const 0)

/-- Opening leaves nothing behind if it fails. -/
theorem trades_openDatabase (url : Option NativeText) (options : Option NativeOptions) :
    Trades owes (api.openDatabase url options) 0
      (Loan.either (fun handle => {.database api.layout handle}) 0) := by
  refine (Trades.lift (accounts.openDatabase url options)).bind fun answer => ?_
  obtain ⟨code, stored⟩ := answer
  dsimp only
  split
  · refine Trades.require (fun handle given => ?_) (fun absent => ?_)
    · rw [given, Loan.ofDatabase_some]
    · rw [absent, Loan.ofDatabase_none]
  · cases stored with
    | none => exact Trades.throw _
    | some handle =>
        refine (Trades.lift ((trades_lastError accounts handle).idle _)).bind fun reported => ?_
        exact Trades.abandon _ (trades_closeDatabase accounts handle)

theorem trades_autocommit (database : Handle .database) :
    Trades owes (api.autocommit database) 0 (Loan.either (fun _ => 0) 0) :=
  (Trades.check (accounts.getAutocommit database).attempted).bind fun _ => Trades.pure rfl

theorem trades_setAutocommit (database : Handle .database) (enabled : Bool) :
    Trades owes (api.setAutocommit database enabled) 0 (Loan.either (fun _ => 0) 0) :=
  Trades.check (accounts.setAutocommit database _).attempted

theorem trades_query (database : Handle .database) (text : NativeText) :
    Trades owes (api.query database text) 0
      (Loan.either (fun executed => Loan.ofResult executed.result) 0) :=
  Trades.check (accounts.query database text)

/-- Fetching hands out nothing that has to be given back. -/
theorem trades_columns (result : LiveResult) :
    Trades owes (api.columns result) 0 (Loan.either (fun _ => 0) 0) := by
  have materialized (index : Nat) : Trades owes (api.materialize result.handle index) 0
      (Loan.either (fun _ => 0) 0) := by
    have fetched : Trades owes (api.resultFetch result.handle index) 0
        (Loan.either (fun _ => 0) 0) :=
      (Trades.check (accounts.resultFetch result.handle index).attempted).bind fun _ =>
        Trades.require (fun _ _ => rfl) fun _ => rfl
    exact fetched.bind fun live =>
      (Trades.lift (accounts.writeCells live _)).bind fun _ => Trades.settle _
  exact (Trades.mapM materialized _).bind fun _ => Trades.pure rfl

theorem trades_cleanupResult (database : Handle .database) (result : Handle .result) :
    Trades owes (api.cleanupResult database result)
      ({.result result} + {.database api.layout database})
      fun _ => {.database api.layout database} :=
  (Trades.check (accounts.cleanupResult database result).attempted).congr rfl
    (Loan.either_const _)

/-- Reading a description hands out nothing, even if it stops the program. -/
theorem trades_metadata (description : LiveResult) :
    Trades owes (api.metadata description) 0 fun _ => 0 :=
  ((trades_columns accounts description).bind fun _ => Trades.settle _).congr rfl
    (Loan.either_const 0)

/-- What comes after preparing finds the statement owed, and its description if it is readable
and reading the description is not going to stop the program. -/
theorem leaves_prepare {database : Handle .database} {others : Multiset Loan} {state : σ}
    (text : NativeText) {next : LiveStatement × Option LiveResult → Call σ β}
    {final : β → Multiset Loan}
    (owed : owes ({.database api.layout database} + others) state)
    (each : ∀ live description reached,
      owes ({.statement live.handle} +
          live.description api.layout (api.stops description reached) description +
          {.database api.layout database} + others) reached →
        Leaves owes reached others (next (live, description))
          (Loan.either final {.database api.layout database})) :
    Leaves owes state others (api.prepare database text >>= next : Call σ β)
      (Loan.either final {.database api.layout database}) := by
  have law := accounts.prepare database text others state owed
  unfold Leaves
  rcases prepared : api.table.prepare (some database) (some text) state with
    ⟨failure | ⟨_ | live, description⟩, reached⟩
  · have refused : api.prepare database text state =
        (.error (.native .prepare failure.toString), reached) :=
      Call.bind_of_error (check_of_error prepared)
    rw [foreseeing_of_error prepared] at law
    rw [Call.bind_of_error refused]
    exact law
  · have missing : api.prepare database text state =
        (.error (.native .prepare "no statement returned"), reached) :=
      Call.bind_of_ok (check_of_ok prepared)
    rw [foreseeing_of_ok prepared] at law
    rw [Call.bind_of_error missing]
    rwa [← zero_add {Loan.database _ _}] at law
  · have handed : api.prepare database text state = (.ok (live, description), reached) :=
      Call.bind_of_ok (check_of_ok prepared)
    rw [foreseeing_of_ok prepared] at law
    rw [Call.bind_of_ok handed]
    exact each live description reached law

theorem trades_bind (statement : Handle .statement) (datum : NativeDatum) (index : Nat) :
    Trades owes (api.bind statement datum index) 0 (Loan.either (fun _ => 0) 0) :=
  Trades.check (accounts.bind statement datum index).attempted

theorem trades_execute (statement : Handle .statement) :
    Trades owes (api.execute statement) 0
      (Loan.either (fun executed => Loan.ofResult executed.result) 0) :=
  Trades.check (accounts.execute statement)

theorem trades_cleanupStatement (database : Handle .database) (statement : Handle .statement) :
    Trades owes (api.cleanupStatement database statement)
      ({.statement statement} + {.database api.layout database})
      fun _ => {.database api.layout database} :=
  (Trades.check (accounts.cleanupStatement database statement).attempted).congr rfl
    (Loan.either_const _)

theorem trades_nullValue (database : Handle .database) (type : ColumnType) :
    Trades owes (api.nullValue database type) 0 (Loan.either (fun _ => 0) 0) :=
  (Trades.settle _).bind fun tag =>
    (accounts.nullValue database tag).attempted.bind fun _ =>
      Trades.require (fun _ _ => rfl) fun _ => rfl

end Api

end Checked

/-! ## Connections -/

namespace Connection

variable {owes : Multiset Loan → σ → Prop}

/-- **Opening a database**: either it is owed, or nothing is. -/
theorem trades_openDatabase {api : Api σ} (accounts : api.Accounts owes)
    (address : Option String) (options : Options) :
    Trades owes (openDatabase api address options) 0
      (Loan.either (fun connection => {connection.loan}) 0) := by
  refine (Trades.settle _).bind fun address => ?_
  refine (Trades.settle _).bind fun native => ?_
  refine (Api.trades_openDatabase accounts address (some native)).bind fun handle => ?_
  let connection : Connection σ := ⟨api, handle⟩
  show Trades owes (applySettings connection options) {connection.loan} _
  unfold applySettings
  split
  · exact Trades.pure rfl
  · have applied := (Api.trades_setAutocommit accounts handle false).frame_either {connection.loan}
    rw [zero_add] at applied
    refine Trades.orAbandon (applied.bind fun _ => ?_) (Api.trades_closeDatabase accounts handle)
    exact Trades.pure rfl

end Connection

section Connected

variable {connection : Connection σ} {owes : Multiset Loan → σ → Prop}

/-- What taking over an outcome makes the client owe. -/
def Outcome.loans : Outcome σ → Multiset Loan
  | rows result => {result.loan}
  | updated _ => 0

/-- A result without columns is released before it is taken over. -/
theorem Outcome.trades_ofExecuted (accounts : connection.api.Accounts owes)
    (executed : Executed) (options : QueryOptions) :
    Trades owes (Outcome.ofExecuted connection executed options)
      (Loan.ofResult executed.result + {connection.loan})
      (Loan.either (fun outcome => outcome.loans + {connection.loan}) {connection.loan}) := by
  have updated : Trades owes (Api.settle
      (Outcome.updated <$> UpdateCount.ofAffected executed.affected options) :
        Call σ (Outcome σ)) {connection.loan}
      (Loan.either (fun outcome => outcome.loans + {connection.loan}) {connection.loan}) := by
    intro others state owed
    cases UpdateCount.ofAffected executed.affected options with
    | ok count =>
        show owes (0 + {connection.loan} + others) state
        rwa [zero_add]
    | error error => exact owed
  unfold Outcome.ofExecuted
  cases executed.result with
  | none => exact updated.congr (zero_add _).symm fun _ => rfl
  | some native =>
      dsimp only
      split
      · exact Trades.pure rfl
      · exact (Api.trades_cleanupResult accounts connection.handle native.handle).attempted.bind
          fun _ => updated

/-- **Running a statement**: rows are owed. -/
theorem Connection.trades_query (accounts : connection.api.Accounts owes) (text : String)
    (options : QueryOptions) :
    Trades owes (connection.query text options) {connection.loan}
      (Loan.either (fun outcome => outcome.loans + {connection.loan}) {connection.loan}) := by
  refine (Trades.settle _).bind fun text => ?_
  have ran := (Api.trades_query accounts connection.handle text).frame_either {connection.loan}
  rw [zero_add] at ran
  exact ran.bind fun executed => Outcome.trades_ofExecuted accounts executed options

namespace ResultSet

variable {result : ResultSet σ}

theorem trades_fetchAll (accounts : result.connection.api.Accounts owes) :
    Trades owes result.fetchAll 0 (Loan.either (fun _ => 0) 0) :=
  (Api.trades_columns accounts result.native).bind fun _ => Trades.pure rfl

theorem trades_close (accounts : result.connection.api.Accounts owes) :
    Trades owes result.close ({result.loan} + {result.connection.loan})
      fun _ => {result.connection.loan} :=
  Api.trades_cleanupResult accounts _ _

end ResultSet

/-! ## Prepared statements -/

namespace PreparedStatement

/-- A description is released whether or not it can be read, unless reading it stops the
program; it need not be owed then. -/
theorem leaves_describe (accounts : connection.api.Accounts owes) {description : LiveResult}
    {others : Multiset Loan} {state : σ}
    (owed : owes ((if connection.api.stops (some description) state then 0
        else {.result description.handle}) + {connection.loan} + others) state) :
    Leaves owes state others (describe connection description) fun _ => {connection.loan} := by
  have read := (Api.trades_metadata accounts description).idle _ others state owed
  unfold Leaves
  rcases run : connection.api.metadata description state with ⟨outcome, reached⟩
  rw [run] at read
  by_cases stopped : outcome = .error .overflow
  · subst stopped
    have stops : connection.api.stops (some description) state = true := by
      rw [Api.stops_some, run]
    rw [if_pos stops, zero_add] at read
    rw [describe_of_overflow run]
    exact read
  · have runs : ¬ connection.api.stops (some description) state = true := by
      rwa [Api.stops_some, run]
    rw [if_neg runs] at read
    rw [describe_of_read run stopped]
    exact Api.trades_cleanupResult accounts _ _ others reached read

/-- Taking over a statement: it is owed, or it was released. So was its description, if it was
owed. -/
theorem leaves_ofPrepared (accounts : connection.api.Accounts owes) {live : LiveStatement}
    {description : Option LiveResult} {others : Multiset Loan} {state : σ}
    (owed : owes ({.statement live.handle} +
      live.description connection.api.layout (connection.api.stops description state) description +
        {connection.loan} + others) state) :
    Leaves owes state others (ofPrepared connection live description)
      (Loan.either (fun statement => {statement.loan} + {connection.loan})
        {connection.loan}) := by
  refine Leaves.orAbandon ?_ (Api.trades_cleanupStatement accounts connection.handle live.handle)
  cases decoded : typesOfTags connection.api.layout (shownTags live) with
  | error error =>
      have unreadable : live.readable connection.api.layout = false := by
        rw [LiveStatement.readable, decoded]
        rfl
      rw [LiveStatement.description_of_unreadable unreadable, add_zero] at owed
      exact owed
  | ok types =>
      have readable : live.readable connection.api.layout = true := by
        rw [LiveStatement.readable, decoded]
        rfl
      rw [LiveStatement.description_of_readable readable] at owed
      cases description with
      | none => exact owed
      | some description =>
          have read : Leaves owes state ({.statement live.handle} + others)
              (describe connection description) fun _ => {connection.loan} := by
            refine leaves_describe accounts ?_
            rw [Loan.ofResult_some] at owed
            convert owed using 1
            ac_rfl
          have taken : Leaves owes state others (describe connection description)
              (Loan.either (fun _ => {.statement live.handle} + {connection.loan})
                ({.statement live.handle} + {connection.loan})) := by
            refine read.congr fun outcome => ?_
            rw [Loan.either_const]
            ac_rfl
          have whole (metadata : Metadata) : Trades owes
              (pure ⟨connection, live.handle, types, metadata, types.map fun _ => none⟩ :
                Call σ (PreparedStatement σ))
              ({.statement live.handle} + {connection.loan})
              (Loan.either (fun statement => {statement.loan} + {connection.loan})
                ({.statement live.handle} + {connection.loan})) := Trades.pure rfl
          exact taken.bind whole

theorem trades_release {statement : PreparedStatement σ}
    (accounts : statement.connection.api.Accounts owes) :
    Trades owes statement.release ({statement.loan} + {statement.connection.loan})
      fun _ => {statement.connection.loan} :=
  Api.trades_cleanupStatement accounts _ _

/-- Binding hands out nothing, whatever is bound. -/
theorem trades_bindWith {statement : PreparedStatement σ}
    (accounts : statement.connection.api.Accounts owes) (index : Nat)
    {datum : PreparedStatement σ → Nat → Call σ NativeDatum}
    (made : ∀ slot, Trades owes (datum statement slot) 0 (Loan.either (fun _ => 0) 0)) :
    Trades owes (bindWith index datum statement) 0 fun _ => 0 := by
  intro others state owed
  unfold bindWith
  cases statement.slot index with
  | error error => exact owed
  | ok slot =>
      have kept := (made slot).congr rfl (Loan.either_const 0) others state owed
      dsimp only
      generalize datum statement slot state = answer at kept ⊢
      obtain ⟨outcome, reached⟩ := answer
      cases outcome with
      | error error => exact kept
      | ok datum =>
          exact (Api.trades_bind accounts statement.handle datum slot).congr rfl
            (Loan.either_const 0) others reached kept

theorem trades_execute {statement : PreparedStatement σ}
    (accounts : statement.connection.api.Accounts owes) (options : QueryOptions) :
    Trades owes (statement.execute options) {statement.connection.loan}
      (Loan.either (fun outcome => outcome.loans + {statement.connection.loan})
        {statement.connection.loan}) := by
  have ran := (Api.trades_execute accounts statement.handle).frame_either
    {statement.connection.loan}
  rw [zero_add] at ran
  exact ran.bind fun executed => Outcome.trades_ofExecuted accounts executed options

end PreparedStatement

/-- **Preparing a statement**: either it is owed, or nothing is. -/
theorem Connection.trades_prepare (accounts : connection.api.Accounts owes) (text : String) :
    Trades owes (connection.prepare text) {connection.loan}
      (Loan.either (fun statement => {statement.loan} + {connection.loan})
        {connection.loan}) := by
  refine (Trades.settle _).bind fun text => ?_
  exact fun others state owed => Api.leaves_prepare accounts text owed fun _ _ _ =>
    PreparedStatement.leaves_ofPrepared accounts

end Connected

end ColumnStore
