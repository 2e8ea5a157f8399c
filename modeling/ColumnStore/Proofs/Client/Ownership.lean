import ColumnStore.Proofs.Client.Call
import ColumnStore.Proofs.Client.FetchAll
import ColumnStore.Proofs.Engine.Reachable
import ColumnStore.Session.Step

/-!
# The data that statements own

A library that is handed a datum may go on reading it until the parameter is bound again, so the
statement owns a datum for each of its parameters. What it owns is the datum that was last handed
over, not the one that the library last accepted: a datum takes its slot before the library is
asked, and a refused one is not put back. Only an attempt that fails before the library is asked
leaves all slots as they are.

To tell what is handed over, a library can be watched: whatever it is asked to bind is written
down, together with whether it did (`FunctionTable.watched`), and nothing else about it changes
(`PreparedStatement.update_watched`).

Main result: `PreparedStatement.owns_last_handed`.
-/

set_option autoImplicit false

namespace ColumnStore

variable {σ α β : Type}

/-! ## Watched libraries -/

/-- A datum that a library was asked to bind, and whether it did. -/
structure Handing where
  statement : Option (Handle .statement)
  datum : Option NativeDatum
  slot : Nat
  accepted : Bool

/-- A library, with all that it was asked to bind; the latest comes first. -/
structure Watched (σ : Type) where
  library : σ
  handings : List Handing

/-- The same entry points, under watch. -/
def FunctionTable.watched (table : FunctionTable σ) : FunctionTable (Watched σ) :=
  { table.lift Watched.library fun library watched => { watched with library } with
    bind := fun statement datum slot watched =>
      let (reply, library) := table.bind statement datum slot watched.library
      (reply, ⟨library, ⟨statement, datum, slot, reply.isOk⟩ :: watched.handings⟩) }

theorem FunctionTable.watched_bind (table : FunctionTable σ) (statement : Option (Handle .statement))
    (datum : Option NativeDatum) (slot : Nat) (state : Watched σ) :
    table.watched.bind statement datum slot state =
      let (reply, library) := table.bind statement datum slot state.library
      (reply, ⟨library, ⟨statement, datum, slot, reply.isOk⟩ :: state.handings⟩) :=
  rfl

/-- A statement of a library under watch. -/
def PreparedStatement.watched (statement : PreparedStatement σ) : PreparedStatement (Watched σ) :=
  { statement with
    connection :=
      ⟨{ statement.connection.api with table := statement.connection.api.table.watched },
        statement.connection.handle⟩ }

namespace Handing

/-- What was handed over last for a slot. -/
def last? (handings : List Handing) (slot : Nat) : Option Handing :=
  handings.find? fun handing => handing.slot = slot

/-- What the library accepted last for a slot. -/
def lastAccepted? (handings : List Handing) (slot : Nat) : Option Handing :=
  handings.find? fun handing => handing.slot = slot && handing.accepted

/-- If the last was accepted it is the last that was. -/
theorem lastAccepted?_eq {handings : List Handing} {slot : Nat}
    (accepted : ∀ handing, last? handings slot = some handing → handing.accepted) :
    lastAccepted? handings slot = last? handings slot := by
  induction handings with
  | nil => rfl
  | cons first rest ih =>
      by_cases here : first.slot = slot
      · have found : last? (first :: rest) slot = some first := by simp [last?, here]
        have taken := accepted first found
        rw [found]
        simp [lastAccepted?, here, taken]
      · have skipped : last? (first :: rest) slot = last? rest slot := by simp [last?, here]
        rw [skipped] at accepted ⊢
        rw [← ih accepted]
        simp [lastAccepted?, here]

end Handing

namespace PreparedStatement

/-! ## Watching changes nothing else -/

/-- The call does under watch what it does unwatched, and nothing is handed over. -/
def Unseen (call : Call σ α) (watched : Call (Watched σ) α) : Prop :=
  ∀ state, watched state = ((call state.library).1, { state with library := (call state.library).2 })

theorem unseen_settle (outcome : Except Error α) :
    Unseen (Api.settle outcome : Call σ α) (Api.settle outcome) :=
  fun _ => rfl

theorem Unseen.bind {first : Call σ α} {next : α → Call σ β} {watchedFirst : Call (Watched σ) α}
    {watchedNext : α → Call (Watched σ) β} (before : Unseen first watchedFirst)
    (after : ∀ answer, Unseen (next answer) (watchedNext answer)) :
    Unseen (first >>= next) (watchedFirst >>= watchedNext) := by
  intro state
  have seen := before state
  rcases run : first state.library with ⟨outcome, library⟩
  rw [run] at seen
  cases outcome with
  | error error => rw [Call.bind_of_error seen, Call.bind_of_error run]
  | ok answer => rw [Call.bind_of_ok seen, Call.bind_of_ok run, after answer]

variable (statement : PreparedStatement σ)

/-- Asking for the datum that is reserved for NULL hands nothing over. -/
theorem unseen_nullDatum (slot : Nat) :
    Unseen (statement.nullDatum slot) (statement.watched.nullDatum slot) := by
  refine (unseen_settle _).bind fun tag => ?_
  refine Unseen.bind (fun _ => rfl) fun datum => ?_
  cases datum with
  | none => exact fun _ => rfl
  | some datum => exact fun _ => rfl

/-- Every binding makes a datum, for which nothing is handed over, and binds it. -/
theorem exists_unseen (index : Nat) (binding : Binding) :
    ∃ (datum : PreparedStatement σ → Nat → Call σ NativeDatum)
      (watched : PreparedStatement (Watched σ) → Nat → Call (Watched σ) NativeDatum),
      binding.update index = bindWith index datum ∧ binding.update index = bindWith index watched ∧
      ∀ statement slot, Unseen (datum statement slot) (watched statement.watched slot) := by
  cases binding with
  | value given =>
      refine ⟨_, _, rfl, rfl, fun statement slot => ?_⟩
      split
      · exact statement.unseen_nullDatum slot
      · exact unseen_settle _
  | null => exact ⟨_, _, rfl, rfl, fun statement slot => statement.unseen_nullDatum slot⟩
  | blob | date | time | timestamp => exact ⟨_, _, rfl, rfl, fun _ _ => unseen_settle _⟩

/-- The datum takes the slot, whatever the library answers. -/
theorem install_watched (slot : Nat) (datum : NativeDatum) (state : Watched σ) :
    let done := install slot datum statement state.library
    ∃ accepted, (done.1.1 = .ok () ↔ accepted = true) ∧
      install slot datum statement.watched state = ((done.1.1, done.1.2.watched),
        ⟨done.2, ⟨some statement.handle, some datum, slot, accepted⟩ :: state.handings⟩) := by
  rcases asked : statement.connection.api.table.bind (some statement.handle) (some datum) slot
    state.library with ⟨reply, library⟩
  have seen := statement.connection.api.table.watched_bind (some statement.handle) (some datum)
    slot state
  rw [asked] at seen
  refine ⟨reply.isOk, ?_⟩
  unfold install Api.bind
  cases reply with
  | ok answer =>
      rw [Api.check_of_ok asked]
      refine ⟨iff_of_true rfl rfl, ?_⟩
      exact congrArg (fun run : Except Error Unit × Watched σ => ((run.1, _), run.2))
        (Api.check_of_ok seen)
  | error text =>
      rw [Api.check_of_error asked]
      refine ⟨iff_of_false nofun nofun, ?_⟩
      exact congrArg (fun run : Except Error Unit × Watched σ => ((run.1, _), run.2))
        (Api.check_of_error seen)

/-- **What an attempt to bind does**, also under watch. It fails before the library is asked and
leaves the statement as it is, or it hands the library a datum, which takes the slot whether or not
the library accepts it. -/
theorem update_watched (index : Nat) (binding : Binding) (state : Watched σ) :
    let done := binding.update index statement state.library
    let seen := binding.update index statement.watched state
    (∃ error, done.1 = (.error error, statement) ∧
      seen = ((.error error, statement.watched), { state with library := done.2 })) ∨
    ∃ slot datum accepted, statement.slot index = .ok slot ∧
      done.1.2 = { statement with slots := statement.slots.set slot (some datum) } ∧
      (done.1.1 = .ok () ↔ accepted = true) ∧
      seen = ((done.1.1, done.1.2.watched),
        ⟨done.2, ⟨some statement.handle, some datum, slot, accepted⟩ :: state.handings⟩) := by
  obtain ⟨datum, watched, same, sameWatched, unseen⟩ := @exists_unseen σ index binding
  rw [same, sameWatched]
  have slots : statement.watched.slot index = statement.slot index := rfl
  unfold bindWith
  rw [slots]
  cases found : statement.slot index with
  | error error => exact .inl ⟨error, rfl, rfl⟩
  | ok slot =>
      dsimp only
      rw [unseen statement slot state]
      rcases made : datum statement slot state.library with ⟨outcome, library⟩
      cases outcome with
      | error error => exact .inl ⟨error, rfl, rfl⟩
      | ok content =>
          obtain ⟨accepted, verdict, seen⟩ :=
            statement.install_watched slot content ⟨library, state.handings⟩
          exact .inr ⟨slot, content, accepted, rfl, rfl, verdict, seen⟩

end PreparedStatement

/-! ## Runs -/

/-- What may happen to a statement. -/
inductive Happening (σ : Type)
  | bind (index : Nat) (binding : Binding)
  /-- The library is used for anything else. -/
  | meanwhile (change : σ → σ)

namespace Happening

/-- What becomes of the statement and the library. -/
def perform : Happening σ → PreparedStatement (Watched σ) × Watched σ →
    PreparedStatement (Watched σ) × Watched σ
  | bind index binding, (statement, state) =>
      let done := binding.update index statement state
      (done.1.2, done.2)
  | meanwhile change, (statement, state) =>
      (statement, { state with library := change state.library })

/-- One thing after the other. -/
def run (happenings : List (Happening σ)) (statement : PreparedStatement (Watched σ))
    (state : Watched σ) : PreparedStatement (Watched σ) × Watched σ :=
  happenings.foldl (fun now happening => happening.perform now) (statement, state)

end Happening

namespace PreparedStatement

/-- What a statement owns for a slot: the datum that was handed over last, or what it owned at
first if none was. -/
def owned (first : PreparedStatement σ) (handings : List Handing) (slot : Nat) :
    Option (Option NativeDatum) :=
  (Handing.last? handings slot).elim first.slots[slot]? fun handing => some handing.datum

/-- The statement has come from the first one, and owns what was handed over last. -/
def Owns (first : PreparedStatement σ) (now : PreparedStatement (Watched σ) × Watched σ) : Prop :=
  ∃ slots : List (Option NativeDatum), now.1 = { first with slots }.watched ∧
    slots.length = first.slots.length ∧
    ∀ slot < first.slots.length, slots[slot]? = owned first now.2.handings slot

variable {first : PreparedStatement σ}

theorem owns_start (first : PreparedStatement σ) (library : σ) :
    Owns first (first.watched, ⟨library, []⟩) :=
  ⟨first.slots, rfl, rfl, fun _ _ => rfl⟩

/-- **Whatever happens**, the statement owns what was handed over last. -/
theorem Owns.perform {now : PreparedStatement (Watched σ) × Watched σ} (owns : Owns first now)
    (happening : Happening σ) : Owns first (happening.perform now) := by
  obtain ⟨statement, state⟩ := now
  obtain ⟨slots, rfl, length, owned⟩ := owns
  cases happening with
  | meanwhile change => exact ⟨slots, rfl, length, owned⟩
  | bind index binding =>
      rcases update_watched { first with slots } index binding state with
        ⟨error, -, seen⟩ | ⟨slot, datum, accepted, -, kept, -, seen⟩
      · refine ⟨slots, ?_, length, ?_⟩
        · exact congrArg (fun run => run.1.2) seen
        · rw [Happening.perform, seen]
          exact owned
      · refine ⟨slots.set slot (some datum), ?_, by rw [List.length_set, length], ?_⟩
        · rw [Happening.perform, seen, kept]
        · intro other inside
          rw [Happening.perform, seen]
          by_cases same : slot = other
          · subst same
            rw [List.getElem?_set_self (by omega)]
            simp [PreparedStatement.owned, Handing.last?]
          · rw [List.getElem?_set_ne same, owned other inside]
            simp [PreparedStatement.owned, Handing.last?, same]

theorem Owns.run {now : PreparedStatement (Watched σ) × Watched σ} (owns : Owns first now)
    (happenings : List (Happening σ)) : Owns first (Happening.run happenings now.1 now.2) := by
  induction happenings generalizing now with
  | nil => exact owns
  | cons happening rest ih => exact ih (owns.perform happening)

/-- **A statement owns the data that were handed over last.** An attempt to bind that fails before
the library is asked leaves all slots as they are. Any other hands over a datum, which takes its
slot and no other one, and is an error if the library refuses it. So whatever happens to a
statement, each slot owns the datum that was handed over last for it. This is the one that the
library accepted last, unless a later one was refused. -/
theorem owns_last_handed (statement : PreparedStatement σ) :
    (∀ (index : Nat) (binding : Binding) (state : Watched σ),
      let done := binding.update index statement state.library
      let seen := binding.update index statement.watched state
      seen.1.1 = done.1.1 ∧ seen.1.2.slots = done.1.2.slots ∧ seen.2.library = done.2 ∧
      ((∃ error, done.1 = (.error error, statement) ∧ seen.2.handings = state.handings) ∨
        ∃ slot datum accepted, statement.slot index = .ok slot ∧
          done.1.2.slots = statement.slots.set slot (some datum) ∧
          (done.1.1 = .ok () ↔ accepted = true) ∧
          seen.2.handings =
            ⟨some statement.handle, some datum, slot, accepted⟩ :: state.handings)) ∧
    ∀ (happenings : List (Happening σ)) (library : σ),
      let now := Happening.run happenings statement.watched ⟨library, []⟩
      ∀ slot < statement.slots.length,
        now.1.slots[slot]? = (Handing.last? now.2.handings slot).elim statement.slots[slot]?
          (fun handing => some handing.datum) ∧
        ((∀ handing, Handing.last? now.2.handings slot = some handing → handing.accepted) →
          now.1.slots[slot]? = (Handing.lastAccepted? now.2.handings slot).elim
            statement.slots[slot]? fun handing => some handing.datum) := by
  refine ⟨fun index binding state => ?_, fun happenings library => ?_⟩
  · rcases statement.update_watched index binding state with
      ⟨error, done, seen⟩ | ⟨slot, datum, accepted, found, kept, verdict, seen⟩
    · refine ⟨?_, ?_, ?_, .inl ⟨error, done, ?_⟩⟩ <;> rw [seen] <;> try rfl
      · rw [done]
      · rw [done]
        rfl
    · refine ⟨?_, ?_, ?_, .inr ⟨slot, datum, accepted, found, ?_, verdict, ?_⟩⟩
      · rw [seen]
      · rw [seen]
        rfl
      · rw [seen]
      · rw [kept]
      · rw [seen]
  · intro now slot inside
    obtain ⟨slots, same, -, owned⟩ := (owns_start statement library).run happenings
    have held : now.1.slots = slots := congrArg PreparedStatement.slots same
    have here : now.1.slots[slot]? = statement.owned now.2.handings slot := by
      rw [held]
      exact owned slot inside
    refine ⟨here, fun accepted => ?_⟩
    rw [Handing.lastAccepted?_eq accepted]
    exact here

/-! ## A day that does not exist -/

/-- A table of days. -/
def daysStored : List Engine.Request :=
  [.openDatabase ⟨true⟩ true none none, .sql "CREATE TABLE t (a DATE)"]

/-- A day is to be inserted. -/
def dayPrepared : Except Error (PreparedStatement Engine) × Engine :=
  (Connection.toFirst ⟨true⟩).prepare "INSERT INTO t VALUES (?)" (Engine.after daysStored)

/-- The last day of a February. -/
def lastDay : DateCell :=
  ⟨⟨2023, by decide⟩, 2, 28⟩

/-- A day that February does not have. -/
def noDay : DateCell :=
  ⟨⟨2023, by decide⟩, 2, 30⟩

/-- Both are bound, one after the other. -/
def dayHappenings : List (Happening Engine) :=
  [.bind 1 (.date lastDay), .bind 1 (.date noDay)]

/-- The components of a date. -/
def dayOf? : NativeDatum → Option DateCell
  | .date cell => some cell
  | _ => none

/-- The engine refuses the second day, and the statement owns it. -/
theorem owns_last_handed_day : ∃ prepared start, dayPrepared = (.ok prepared, start) ∧
    let now := Happening.run dayHappenings prepared.watched ⟨start, []⟩
    0 < prepared.slots.length ∧
    ((Handing.lastAccepted? now.2.handings 0).bind (·.datum)).bind dayOf? = some lastDay ∧
    ∃ owned, now.1.slots[0]? = some owned ∧ owned.bind dayOf? = some noDay := by
  have shown : dayPrepared.1.toOption.map (fun prepared =>
      let now := Happening.run dayHappenings prepared.watched ⟨dayPrepared.2, []⟩
      (prepared.slots.length,
        ((Handing.lastAccepted? now.2.handings 0).bind (·.datum)).bind dayOf?,
        (Handing.last? now.2.handings 0).map (·.datum.bind dayOf?))) =
      some (1, some lastDay, some (some noDay)) := by
    decide +kernel
  obtain ⟨prepared, answered, known⟩ := Option.map_eq_some_iff.1 shown
  obtain ⟨one, rest⟩ := Prod.mk.inj known
  obtain ⟨accepted, last⟩ := Prod.mk.inj rest
  obtain ⟨handing, found, refused⟩ := Option.map_eq_some_iff.1 last
  have inside : 0 < prepared.slots.length := by omega
  have owned := (prepared.owns_last_handed.2 dayHappenings dayPrepared.2 0 inside).1
  rw [found] at owned
  exact ⟨prepared, _, Call.eq_of_toOption answered, inside, accepted, _, owned, refused⟩

/-- A bind that fails can change what the statement owns. -/
theorem exists_refused_owned : ¬ ∀ (statement : PreparedStatement Engine) (engine : Engine)
    (index : Nat) (binding : Binding) (error : Error),
    (binding.update index statement engine).1.1 = .error error →
      (binding.update index statement engine).1.2.slots = statement.slots := by
  intro claimed
  have shown : dayPrepared.1.toOption.map (fun prepared =>
      let first := prepared.bindDate 1 lastDay dayPrepared.2
      let second := first.1.2.bindDate 1 noDay first.2
      (second.1.1.toOption, first.1.2.slots.map (·.bind dayOf?),
        second.1.2.slots.map (·.bind dayOf?))) =
      some (none, [some lastDay], [some noDay]) := by
    decide +kernel
  obtain ⟨prepared, -, known⟩ := Option.map_eq_some_iff.1 shown
  obtain ⟨failed, rest⟩ := Prod.mk.inj known
  obtain ⟨before, after⟩ := Prod.mk.inj rest
  let first := prepared.bindDate 1 lastDay dayPrepared.2
  let second := first.1.2.bindDate 1 noDay first.2
  obtain ⟨error, refused⟩ : ∃ error, second.1.1 = .error error := by
    rcases outcome : second.1.1 with error | answer
    · exact ⟨error, rfl⟩
    · cases (congrArg Except.toOption outcome).symm.trans failed
  have same : second.1.2.slots = first.1.2.slots :=
    claimed first.1.2 first.2 1 (.date noDay) error refused
  have days := before.symm.trans ((congrArg (List.map (·.bind dayOf?)) same).symm.trans after)
  exact absurd days (by decide)

end PreparedStatement

end ColumnStore
