import ColumnStore.Client.Api
import ColumnStore.Proofs.Client.Call
import ColumnStore.Proofs.Except

/-!
# Actions that agree

Two actions on a state agree if, from states that are related, they answer the same and leave
states that are related again (`Agree`). What `the same` and `related` mean is up to the use.
Agreement is put together from the steps of two actions, so that the agreement of two programs
follows from that of the libraries they call.
-/

set_option autoImplicit false

namespace ColumnStore

variable {σ α β : Type} {related : σ → σ → Prop}

/-- From related states two actions answer the same and leave related states. -/
def Agree (related : σ → σ → Prop) (same : α → α → Prop) (left right : StateM σ α) : Prop :=
  ∀ state other, related state other →
    same (left state).1 (right other).1 ∧ related (left state).2 (right other).2

theorem agree_pure {same : α → α → Prop} {answer other : α} (agree : same answer other) :
    Agree related same (pure answer) (pure other) :=
  fun _ _ start => ⟨agree, start⟩

theorem agree_get : Agree related related (get : StateM σ σ) get :=
  fun _ _ start => ⟨start, start⟩

theorem agree_modify {change other : σ → σ}
    (kept : ∀ state second, related state second → related (change state) (other second)) :
    Agree related Eq (modify change : StateM σ PUnit) (modify other) :=
  fun _ _ start => ⟨rfl, kept _ _ start⟩

namespace Agree

variable {same : α → α → Prop} {after : β → β → Prop} {left right : StateM σ α}

theorem bind {first second : α → StateM σ β} (agree : Agree related same left right)
    (next : ∀ answer other, same answer other → Agree related after (first answer) (second other)) :
    Agree related after (left >>= first) (right >>= second) := by
  intro state other start
  obtain ⟨answers, middle⟩ := agree state other start
  exact next _ _ answers _ _ middle

/-- The next actions start from the same answer. -/
theorem bind_eq {first second : α → StateM σ β} (agree : Agree related Eq left right)
    (next : ∀ answer, Agree related after (first answer) (second answer)) :
    Agree related after (left >>= first) (right >>= second) := by
  refine agree.bind ?_
  intro answer other equal
  rw [equal]
  exact next other

/-- Actions for the elements of two lists, one after the other. -/
theorem forM {γ : Type} {pairs : γ → γ → Prop} {first second : γ → StateM σ PUnit}
    {list others : List γ} (matched : List.Forall₂ pairs list others)
    (each : ∀ element other, pairs element other →
      Agree related Eq (first element) (second other)) :
    Agree related Eq (list.forM first) (others.forM second) := by
  induction matched with
  | nil => exact agree_pure rfl
  | cons head tail ih => exact (each _ _ head).bind fun _ _ _ => ih

/-- Actions for the elements of a list, with the answers in order. -/
theorem mapM {γ : Type} {pairs : γ → γ → Prop} {first second : γ → StateM σ α}
    {list others : List γ} (matched : List.Forall₂ pairs list others)
    (each : ∀ element other, pairs element other →
      Agree related same (first element) (second other)) :
    Agree related (List.Forall₂ same) (list.mapM first) (others.mapM second) := by
  induction matched with
  | nil => exact agree_pure .nil
  | cons head tail ih =>
      rw [List.mapM_cons, List.mapM_cons]
      refine (each _ _ head).bind fun answer other one => ih.bind fun answers others many => ?_
      exact agree_pure (.cons one many)

end Agree

/-! ## Calls -/

namespace Call

/-- Two calls agree if they do as actions and fail in the same way. -/
def Agree (related : σ → σ → Prop) (same : α → α → Prop) (left right : Call σ α) : Prop :=
  ColumnStore.Agree related (Except.Agree same) left.run right.run

theorem agree_pure {same : α → α → Prop} {answer other : α} (agree : same answer other) :
    Agree related same (pure answer) (pure other) :=
  fun _ _ start => ⟨.ok agree, start⟩

theorem agree_throw {same : α → α → Prop} (error : Error) :
    Agree related same (throw error) (throw error) :=
  fun _ _ start => ⟨.error error, start⟩

/-- An action that cannot fail is a call. -/
theorem agree_lift {same : α → α → Prop} {left right : StateM σ α}
    (agree : ColumnStore.Agree related same left right) :
    Agree related same (liftM left) (liftM right) := by
  intro state other start
  obtain ⟨answers, final⟩ := agree state other start
  exact ⟨.ok answers, final⟩

namespace Agree

variable {same : α → α → Prop} {after : β → β → Prop} {left right : Call σ α}

/-- What calls that agree come to from two related states. -/
theorem outcomes (agree : Agree related same left right) {state other : σ}
    (start : related state other) :
    Except.Agree same (left state).1 (right other).1 ∧ related (left state).2 (right other).2 :=
  agree state other start

theorem bind {first second : α → Call σ β} (agree : Agree related same left right)
    (next : ∀ answer other, same answer other → Agree related after (first answer) (second other)) :
    Agree related after (left >>= first) (right >>= second) := by
  show ColumnStore.Agree related (Except.Agree after) (left.run >>= ExceptT.bindCont first)
    (right.run >>= ExceptT.bindCont second)
  refine ColumnStore.Agree.bind agree fun answer other outcome => ?_
  cases outcome with
  | ok same => exact next _ _ same
  | error failure => exact agree_throw failure

/-- The next calls start from the same answer. -/
theorem bind_eq {first second : α → Call σ β} (agree : Agree related Eq left right)
    (next : ∀ answer, Agree related after (first answer) (second answer)) :
    Agree related after (left >>= first) (right >>= second) := by
  refine agree.bind ?_
  intro answer other equal
  rw [equal]
  exact next other

theorem tryCatch {first second : Error → Call σ α} (agree : Agree related same left right)
    (next : ∀ error, Agree related same (first error) (second error)) :
    Agree related same (tryCatch left first) (tryCatch right second) := by
  show ColumnStore.Agree related (Except.Agree same) (ExceptT.tryCatch left first).run
    (ExceptT.tryCatch right second).run
  refine ColumnStore.Agree.bind agree fun answer other outcome => ?_
  cases outcome with
  | ok same => exact agree_pure same
  | error failure => exact next failure

/-- The same calls for the elements of a list. -/
theorem mapM_eq {γ : Type} {first second : γ → Call σ α} (list : List γ)
    (each : ∀ element ∈ list, Agree related Eq (first element) (second element)) :
    Agree related Eq (list.mapM first) (list.mapM second) := by
  induction list with
  | nil => exact agree_pure rfl
  | cons head tail ih =>
      obtain ⟨one, many⟩ := List.forall_mem_cons.1 each
      rw [List.mapM_cons, List.mapM_cons]
      refine one.bind_eq fun answer => (ih many).bind_eq fun answers => ?_
      exact agree_pure rfl

end Agree

end Call

/-! ## Checked calls -/

namespace Api

variable {same : α → α → Prop}

theorem agree_check {entry : EntryPoint} {left right : StateM σ (Reply α)}
    (agree : Agree related (Except.Agree same) left right) :
    Call.Agree related same (check entry left) (check entry right) := by
  intro state other start
  have both := agree state other start
  show Except.Agree same (check entry left state).1 (check entry right other).1 ∧
    related (check entry left state).2 (check entry right other).2
  unfold check
  generalize left state = first at both ⊢
  generalize right other = second at both ⊢
  obtain ⟨outcome, next⟩ := first
  obtain ⟨result, last⟩ := second
  obtain ⟨answers, final⟩ := both
  cases answers with
  | ok same => exact ⟨.ok same, final⟩
  | error text => exact ⟨.error _, final⟩

theorem agree_settle {outcome result : Except Error α} (agree : Except.Agree same outcome result) :
    Call.Agree related same (settle outcome) (settle result) :=
  fun _ _ start => ⟨agree, start⟩

/-- The same known outcome goes on in two ways. -/
theorem agree_settle_bind {after : β → β → Prop} {outcome : Except Error α}
    {first second : α → Call σ β}
    (next : ∀ answer, outcome = .ok answer →
      Call.Agree related after (first answer) (second answer)) :
    Call.Agree related after (settle outcome >>= first) (settle outcome >>= second) := by
  cases outcome with
  | ok answer => exact next answer rfl
  | error error => exact Call.agree_throw error

theorem agree_attempt {left right : Call σ α} (agree : Call.Agree related same left right) :
    Call.Agree related Eq (attempt left) (attempt right) :=
  fun state other start => ⟨.ok rfl, (agree state other start).2⟩

theorem agree_abandon {after : β → β → Prop} {left right : Call σ α}
    (agree : Call.Agree related same left right) (error : Error) :
    Call.Agree related after (abandon left error) (abandon right error) :=
  (agree_attempt agree).bind fun _ _ _ => Call.agree_throw error

theorem agree_require {entry : EntryPoint} {missing : String} {object other : Option α}
    (agree : Option.Rel same object other) :
    Call.Agree related same (require entry missing object) (require entry missing other) := by
  cases agree with
  | some same => exact Call.agree_pure same
  | none => exact Call.agree_throw _

theorem agree_require_eq (entry : EntryPoint) (missing : String) (object : Option α) :
    Call.Agree related Eq (require entry missing object) (require entry missing object) := by
  cases object with
  | some object => exact Call.agree_pure rfl
  | none => exact Call.agree_throw _

end Api

end ColumnStore
