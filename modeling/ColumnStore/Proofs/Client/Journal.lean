import ColumnStore.Proofs.Client.Caller

/-!
# Journals of libraries

A library can be put under observation: whatever it is, every call that hands out an object,
takes one back or asks for the reason of a failure is written down, together with the state that
the library was in before (`Api.journaled`). Nothing else about the library changes. From the
journal one can tell how often each object was handed out and how often it was given back.

Whatever the library answers, the journal is kept in balance by the calls of the client: what was
handed out was given back, is owed, or is lost, and nothing is given back before it was handed
out (`Journaled.Owes`). What is lost is the description of a statement that is missing or not
readable, and a description that stops the program. Whether it does is asked ahead, as in the
accounts of the client, and written down along with the description.

Main result: `Api.Accounts.journaled`.
-/

set_option autoImplicit false

namespace ColumnStore

variable {σ α β : Type}

/-! ## Events -/

/-- What is written down of a call. Objects that an entry hands out only count if it succeeds;
objects that are given back count in any case. -/
inductive Event
  | opened (layout : TagLayout) (code : Int32) (stored : Option (Handle .database))
  | closed (layout : TagLayout) (given : Option (Handle .database)) (code : Int32)
  /-- The reason of a failure was asked for. -/
  | explained (given : Option (Handle .database)) (text : Option NativeText)
  /-- A statement was run, directly or as a prepared one. -/
  | executed (stored : Executed)
  /-- A statement was prepared, with a description that is going to stop the program or not. -/
  | prepared (layout : TagLayout) (stored : Prepared) (stops : Bool)
  | releasedResult (given : Option (Handle .result))
  | releasedStatement (given : Option (Handle .statement))
  deriving DecidableEq

/-- The description of a statement is lost if there is no statement, if the statement is not
readable, or if reading the description stops the program. -/
def Prepared.lost (layout : TagLayout) (stops : Bool) (prepared : Prepared) : Multiset Loan :=
  match prepared.statement with
  | some live =>
      if live.readable layout && !stops then 0 else Loan.ofResult prepared.description
  | none => Loan.ofResult prepared.description

namespace Event

/-- The objects that are handed out. -/
def handed : Event → Multiset Loan
  | opened layout _ stored => Loan.ofDatabase layout stored
  | executed stored => Loan.ofResult stored.result
  | prepared _ stored _ => Loan.ofStatement stored.statement + Loan.ofResult stored.description
  | _ => 0

/-- The objects that are given back. -/
def released : Event → Multiset Loan
  | closed layout given _ => Loan.ofDatabase layout given
  | releasedResult given => (given.map Loan.result).toList
  | releasedStatement given => (given.map Loan.statement).toList
  | _ => 0

/-- The objects that are handed out and that nobody owes. -/
def lost : Event → Multiset Loan
  | prepared layout stored stops => stored.lost layout stops
  | _ => 0

/-- Where an object is needed, one is given. -/
def Given : Event → Prop
  | closed _ given _ => given ≠ none
  | explained given _ => given ≠ none
  | releasedResult given => given ≠ none
  | releasedStatement given => given ≠ none
  | _ => True

end Event

/-- What a prepare hands out is owed or lost. -/
theorem Prepared.loans_add_lost (layout : TagLayout) (stops : Bool) (prepared : Prepared) :
    prepared.loans layout stops + prepared.lost layout stops =
      Loan.ofStatement prepared.statement + Loan.ofResult prepared.description := by
  obtain ⟨statement, description⟩ := prepared
  cases statement with
  | none => rfl
  | some live =>
      simp only [loans, lost, LiveStatement.description, Loan.ofStatement_some]
      split <;> simp

/-! ## Libraries under observation -/

/-- What was seen, and the state of the library before. -/
structure JournalEntry (σ : Type) where
  before : σ
  event : Event

/-- A library with its journal. -/
structure Journaled (σ : Type) where
  library : σ
  entries : List (JournalEntry σ)

namespace Journaled

/-- A library whose journal is empty. -/
def start (library : σ) : Journaled σ :=
  ⟨library, []⟩

/-- What was seen, in order. -/
def events (journaled : Journaled σ) : List Event :=
  journaled.entries.map (·.event)

end Journaled

/-- An action of a library, after which something is written down. -/
def noting (action : StateM σ α) (note : α → List Event) : StateM (Journaled σ) α :=
  fun state =>
    let (answer, library) := action state.library
    (answer, ⟨library, state.entries ++ (note answer).map (⟨state.library, ·⟩)⟩)

theorem noting_of_eq {action : StateM σ α} {note : α → List Event} {state : Journaled σ}
    {answer : α} {reached : σ} (run : action state.library = (answer, reached)) :
    noting action note state =
      (answer, ⟨reached, state.entries ++ (note answer).map (⟨state.library, ·⟩)⟩) := by
  rw [noting, run]

/-- What is written down if an entry succeeds. -/
def Reply.note (event : α → Event) : Reply α → List Event
  | .ok answer => [event answer]
  | .error _ => []

/-- What is written down if a statement was prepared. -/
def Api.notePrepared (api : Api σ) : Reply (Prepared × Bool) → List Event :=
  Reply.note fun answer => .prepared api.layout answer.1 answer.2

/-- The same entry points, under observation. -/
def Api.journaledTable (api : Api σ) : FunctionTable (Journaled σ) where
  openDatabase url options := noting (api.table.openDatabase url options) fun answer =>
    [.opened api.layout answer.1 answer.2]
  closeDatabase database := noting (api.table.closeDatabase database) fun code =>
    [.closed api.layout database code]
  lastError database := noting (api.table.lastError database) fun text =>
    [.explained database text]
  getAutocommit database := noting (api.table.getAutocommit database) fun _ => []
  setAutocommit database value := noting (api.table.setAutocommit database value) fun _ => []
  query database text := noting (api.table.query database text) (Reply.note .executed)
  resultFetch result index := noting (api.table.resultFetch result index) fun _ => []
  cleanupResult database result := noting (api.table.cleanupResult database result) fun _ =>
    [.releasedResult result]
  prepare database text :=
    (·.map (·.1)) <$> noting (api.foreseeing database text) api.notePrepared
  bind statement datum index := noting (api.table.bind statement datum index) fun _ => []
  execute statement := noting (api.table.execute statement) (Reply.note .executed)
  cleanupStatement database statement :=
    noting (api.table.cleanupStatement database statement) fun _ => [.releasedStatement statement]
  nullValue database tag := noting (api.table.nullValue database tag) fun _ => []
  writeCells column cells := noting (api.table.writeCells column cells) fun _ => []

/-- An API whose library is under observation. -/
def Api.journaled (api : Api σ) : Api (Journaled σ) :=
  ⟨api.journaledTable, api.layout, api.path⟩

/-! ## Reading under observation -/

/-- Under observation an action does what it does otherwise. -/
def Observes (observed : StateM (Journaled σ) α) (action : StateM σ α) : Prop :=
  ∀ state, (observed state).1 = (action state.library).1 ∧
    (observed state).2.library = (action state.library).2

theorem observes_noting (action : StateM σ α) (note : α → List Event) :
    Observes (noting action note) action :=
  fun _ => ⟨rfl, rfl⟩

theorem observes_settle (outcome : Except Error α) :
    Observes (Api.settle outcome : Call (Journaled σ) α) (Api.settle outcome : Call σ α) :=
  fun _ => ⟨rfl, rfl⟩

namespace Observes

theorem check {entry : EntryPoint} {observed : StateM (Journaled σ) (Reply α)}
    {reply : StateM σ (Reply α)} (same : Observes observed reply) :
    Observes (Api.check entry observed) (Api.check entry reply) := by
  intro state
  obtain ⟨answers, reached⟩ := same state
  rcases seen : observed state with ⟨answer, next⟩
  rcases run : reply state.library with ⟨_, _⟩
  rw [seen, run] at answers reached
  subst answers reached
  cases answer with
  | ok answer =>
      rw [Api.check_of_ok seen, Api.check_of_ok run]
      exact ⟨rfl, rfl⟩
  | error text =>
      rw [Api.check_of_error seen, Api.check_of_error run]
      exact ⟨rfl, rfl⟩

theorem bind {first : Call (Journaled σ) α} {original : Call σ α}
    {next : α → Call (Journaled σ) β} {after : α → Call σ β} (one : Observes first original)
    (each : ∀ answer, Observes (next answer) (after answer)) :
    Observes (first >>= next : Call (Journaled σ) β) (original >>= after : Call σ β) := by
  intro state
  obtain ⟨answers, reached⟩ := one state
  rcases seen : first state with ⟨outcome, middle⟩
  rcases run : original state.library with ⟨_, _⟩
  rw [seen, run] at answers reached
  subst answers reached
  cases outcome with
  | ok answer =>
      rw [Call.bind_of_ok seen, Call.bind_of_ok run]
      exact each answer middle
  | error error =>
      rw [Call.bind_of_error seen, Call.bind_of_error run]
      exact ⟨rfl, rfl⟩

theorem mapM {observed : α → Call (Journaled σ) β} {call : α → Call σ β}
    (each : ∀ element, Observes (observed element) (call element)) (list : List α) :
    Observes (list.mapM observed : Call (Journaled σ) (List β))
      (list.mapM call : Call σ (List β)) := by
  induction list with
  | nil => exact fun _ => ⟨rfl, rfl⟩
  | cons element rest ih =>
      rw [List.mapM_cons, List.mapM_cons]
      exact (each element).bind fun _ => ih.bind fun _ _ => ⟨rfl, rfl⟩

end Observes

namespace Api

/-- A description is read as it is otherwise. -/
theorem observes_metadata (api : Api σ) (description : LiveResult) :
    Observes (api.journaled.metadata description) (api.metadata description) := by
  have fetched (index : Nat) : Observes (api.journaled.resultFetch description.handle index)
      (api.resultFetch description.handle index) := by
    refine (observes_noting (api.table.resultFetch _ _) fun _ => []).check.bind fun column => ?_
    cases column <;> exact fun _ => ⟨rfl, rfl⟩
  have materialized (index : Nat) :
      Observes (api.journaled.materialize description.handle index)
        (api.materialize description.handle index) :=
    (fetched index).bind fun live _ => ⟨rfl, rfl⟩
  have gathered : Observes (api.journaled.columns description) (api.columns description) :=
    (Observes.mapM materialized _).bind fun _ _ => ⟨rfl, rfl⟩
  exact gathered.bind fun columns => observes_settle (Metadata.ofColumns columns)

theorem stops_journaled (api : Api σ) (description : Option LiveResult) (state : Journaled σ) :
    api.journaled.stops description state = api.stops description state.library := by
  cases description with
  | none => rfl
  | some description =>
      rw [Bool.eq_iff_iff, stops_some, stops_some, (api.observes_metadata description state).1]

/-- Looking ahead under observation. -/
theorem foreseeing_journaled (api : Api σ) (database : Option (Handle .database))
    (text : Option NativeText) :
    api.journaled.foreseeing database text =
      noting (api.foreseeing database text) api.notePrepared := by
  funext state
  have entry : api.journaled.table.prepare database text state =
      (fun answer => (answer.1.map (·.1), answer.2))
        (noting (api.foreseeing database text) api.notePrepared state) := rfl
  rcases prepared : api.table.prepare database text state.library with ⟨failure | handed, reached⟩
  · rw [noting_of_eq (foreseeing_of_error prepared)] at entry ⊢
    exact foreseeing_of_error entry
  · rw [noting_of_eq (foreseeing_of_ok prepared)] at entry ⊢
    rw [foreseeing_of_ok entry, stops_journaled]

end Api

/-! ## Balanced journals -/

namespace Journaled

/-- All objects that events are about in some way. -/
def total (part : Event → Multiset Loan) (events : List Event) : Multiset Loan :=
  (events.map part).sum

theorem total_append (part : Event → Multiset Loan) (earlier later : List Event) :
    total part (earlier ++ later) = total part earlier + total part later := by
  rw [total, List.map_append, List.sum_append, total, total]

/-- What is owed to a library under observation: what its journal says was handed out, neither
given back nor lost. The library itself keeps up what is owed, and was owed what is given back. -/
structure Owes (owes : Multiset Loan → σ → Prop) (owed : Multiset Loan)
    (journaled : Journaled σ) : Prop where
  library : owes owed journaled.library
  balanced : total Event.handed journaled.events =
    total Event.released journaled.events + owed + total Event.lost journaled.events
  /-- At no time was more given back than had been handed out. -/
  earlier : ∀ events, events <+: journaled.events →
    total Event.released events ≤ total Event.handed events
  given : ∀ event ∈ journaled.events, event.Given
  covered : ∀ entry ∈ journaled.entries, ∀ loan ∈ entry.event.released,
    ∃ owed, loan ∈ owed ∧ owes owed entry.before

theorem owes_start {owes : Multiset Loan → σ → Prop} {library : σ} (nothing : owes 0 library) :
    Owes owes 0 (start library) := by
  refine ⟨nothing, rfl, fun events earlier => ?_, fun event member => ?_, fun entry member => ?_⟩
  · rw [List.prefix_nil.1 earlier]
    exact le_refl _
  · cases member
  · cases member

end Journaled

/-- What is written down of one call agrees with what is owed before and after it. -/
inductive Noted : Multiset Loan → List Event → Multiset Loan → Prop
  | nothing (owed : Multiset Loan) : Noted owed [] owed
  | event {event : Event} {before after : Multiset Loan} (gain rest : Multiset Loan)
      (given : event.Given) (handed : event.handed = gain + event.lost)
      (first : event.released + rest = before) (last : gain + rest = after) :
      Noted before [event] after

section Noting

variable {owes : Multiset Loan → σ → Prop} {before others final : Multiset Loan}
  {events : List Event} {journaled : Journaled σ} {library : σ}

/-- A balanced journal stays balanced when the events of a call are written down. -/
theorem Journaled.Owes.note (held : Owes owes (before + others) journaled)
    (noted : Noted before events final) (kept : owes (final + others) library) :
    Owes owes (final + others)
      ⟨library, journaled.entries ++ events.map (⟨journaled.library, ·⟩)⟩ := by
  cases noted with
  | nothing =>
      rw [List.map_nil, List.append_nil]
      exact ⟨kept, held.balanced, held.earlier, held.given, held.covered⟩
  | @event event _ _ gain rest given handed first last =>
      subst first last
      have written : Journaled.events ⟨library, journaled.entries ++
          [event].map (⟨journaled.library, ·⟩)⟩ = journaled.events ++ [event] := by
        rw [Journaled.events, List.map_append]
        rfl
      have balanced : total Event.handed (journaled.events ++ [event]) =
          total Event.released (journaled.events ++ [event]) + (gain + rest + others) +
            total Event.lost (journaled.events ++ [event]) := by
        simp only [total_append, held.balanced]
        simp only [total, List.map_singleton, List.sum_singleton, handed]
        ac_rfl
      refine ⟨kept, by rwa [written], fun earlier first => ?_, fun other member => ?_,
        fun entry member loan released => ?_⟩
      · rw [written] at first
        rcases List.prefix_concat_iff.1 first with rfl | before
        · rw [balanced, add_assoc]
          exact Multiset.le_add_right _ _
        · exact held.earlier earlier before
      · rw [written] at member
        rcases List.mem_append.1 member with earlier | new
        · exact held.given other earlier
        · rwa [List.mem_singleton.1 new]
      · rcases List.mem_append.1 member with earlier | new
        · exact held.covered entry earlier loan released
        · cases List.mem_singleton.1 new
          exact ⟨_, Multiset.mem_add.2 (.inl (Multiset.mem_add.2 (.inl released))), held.library⟩

/-- An action under observation keeps up what is owed, if what is written down agrees with what
it hands out and takes back. -/
theorem trades_noting {action : StateM σ α} {note : α → List Event} {after : α → Multiset Loan}
    (trades : Trades owes action before after)
    (noted : ∀ answer, Noted before (note answer) (after answer)) :
    Trades (Journaled.Owes owes) (noting action note) before after :=
  fun others journaled held =>
    held.note (noted _) (trades others journaled.library held.library)

end Noting

/-- What is written down if a statement was run. -/
theorem noted_executed (reply : Reply Executed) : Noted 0 (Reply.note .executed reply)
    (Loan.either (fun executed => Loan.ofResult executed.result) 0 reply) := by
  cases reply with
  | error text => exact .nothing 0
  | ok stored =>
      exact .event (Loan.ofResult stored.result) 0 trivial (add_zero _).symm rfl (add_zero _)

theorem noted_prepared (api : Api σ) (rest : Multiset Loan) (reply : Reply (Prepared × Bool)) :
    Noted rest (api.notePrepared reply)
      (Loan.either (fun answer => answer.1.loans api.layout answer.2 + rest) rest reply) := by
  cases reply with
  | error text => exact .nothing rest
  | ok answer =>
      exact .event (answer.1.loans api.layout answer.2) rest trivial
        (answer.1.loans_add_lost api.layout answer.2).symm (zero_add rest) rfl

/-- **Whatever a library answers, its journal stays in balance.** -/
theorem Api.Accounts.journaled {api : Api σ} {owes : Multiset Loan → σ → Prop}
    (accounts : api.Accounts owes) : api.journaled.Accounts (Journaled.Owes owes) where
  openDatabase url options := trades_noting (accounts.openDatabase url options) fun answer =>
    .event (Loan.ofDatabase api.layout answer.2) 0 trivial (add_zero _).symm rfl (add_zero _)
  closeDatabase database := trades_noting (accounts.closeDatabase database) fun _ =>
    .event 0 0 (Option.some_ne_none database) rfl rfl rfl
  lastError database := trades_noting (accounts.lastError database) fun _ =>
    .event 0 0 (Option.some_ne_none database) rfl rfl rfl
  getAutocommit database := trades_noting (accounts.getAutocommit database) fun _ => .nothing 0
  setAutocommit database value :=
    trades_noting (accounts.setAutocommit database value) fun _ => .nothing 0
  query database text := trades_noting (accounts.query database text) noted_executed
  resultFetch result index :=
    trades_noting (accounts.resultFetch result index) fun _ => .nothing 0
  cleanupResult database result :=
    trades_noting (accounts.cleanupResult database result) fun _ =>
      .event 0 _ (Option.some_ne_none result) rfl rfl (zero_add _)
  prepare database text := by
    rw [api.foreseeing_journaled]
    exact trades_noting (accounts.prepare database text) (noted_prepared api _)
  bind statement datum index :=
    trades_noting (accounts.bind statement datum index) fun _ => .nothing 0
  execute statement := trades_noting (accounts.execute statement) noted_executed
  cleanupStatement database statement :=
    trades_noting (accounts.cleanupStatement database statement) fun _ =>
      .event 0 _ (Option.some_ne_none statement) rfl rfl (zero_add _)
  nullValue database tag := trades_noting (accounts.nullValue database tag) fun _ => .nothing 0
  writeCells column cells := trades_noting (accounts.writeCells column cells) fun _ => .nothing 0

/-- Nothing has to be known of a library whose journal is kept. -/
theorem Api.accounts_anything (api : Api σ) : api.Accounts fun _ _ => True := by
  constructor <;> intros <;> exact fun _ _ _ => trivial

end ColumnStore
