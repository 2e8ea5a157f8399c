import Mathlib.Data.List.Forall2

/-!
# Computations that may fail

What a computation that succeeded went through: the results of its steps, and for a list
the result of each of its elements; for what reasons one can fail (`FailsFor`), and which of many
is the first that fails (`FirstFailure`). Two computations agree if both succeed with answers that
are the same in some sense, or both fail in the same way (`Agree`); they are alike if both succeed
with the same answer or both fail, perhaps in different ways (`Alike`), and parallel if the answers
need only be related (`Parallel`).
-/

set_option autoImplicit false

namespace Except

variable {ε α β : Type}

/-- A sequence of two steps succeeds if both do. -/
theorem bind_eq_ok {first : Except ε α} {next : α → Except ε β} {answer : β} :
    first >>= next = .ok answer ↔ ∃ middle, first = .ok middle ∧ next middle = .ok answer := by
  cases first with
  | error failure => simp [bind, Except.bind]
  | ok middle => simp [bind, Except.bind]

theorem map_eq_ok {attempt : Except ε α} {change : α → β} {answer : β} :
    change <$> attempt = .ok answer ↔
      ∃ content, attempt = .ok content ∧ change content = answer := by
  cases attempt with
  | error failure => simp [Functor.map, Except.map]
  | ok content => simp [Functor.map, Except.map]

theorem map_eq_error {attempt : Except ε α} {change : α → β} {failure : ε} :
    change <$> attempt = .error failure ↔ attempt = .error failure := by
  cases attempt with
  | error other => simp [Functor.map, Except.map]
  | ok content => simp [Functor.map, Except.map]

/-- A list of attempts succeeds if each of them does. -/
theorem mapM_eq_ok {attempt : α → Except ε β} {list : List α} {answers : List β} :
    list.mapM attempt = .ok answers ↔
      List.Forall₂ (fun element answer => attempt element = .ok answer) list answers := by
  induction list generalizing answers with
  | nil => simp [pure, Except.pure, eq_comm]
  | cons element rest ih =>
      rw [List.mapM_cons, bind_eq_ok]
      constructor
      · rintro ⟨first, one, others⟩
        obtain ⟨last, many, whole⟩ := bind_eq_ok.1 others
        cases whole
        exact .cons one (ih.1 many)
      · intro each
        cases each with
        | cons one many =>
            exact ⟨_, one, bind_eq_ok.2 ⟨_, ih.2 many, rfl⟩⟩

/-- Attempts at positions of a list succeed if each does at any position. -/
theorem mapM_zipIdx_of_forall₂ {attempt : α × Nat → Except ε β} {list : List α}
    {answers : List β} (each : List.Forall₂
      (fun element answer => ∀ position, attempt (element, position) = .ok answer) list answers) :
    list.zipIdx.mapM attempt = .ok answers := by
  have placed (start : Nat) : List.Forall₂ (fun entry answer => attempt entry = .ok answer)
      (list.zipIdx start) answers := by
    induction each generalizing start with
    | nil => exact .nil
    | cons one _ ih => exact .cons (one start) (ih (start + 1))
  exact mapM_eq_ok.2 (placed 0)

/-- The first attempt of a list that fails decides how all of them do. -/
theorem mapM_eq_error {attempt : α → Except ε β} {list : List α} {index : Nat} {failing : α}
    {error : ε} (there : list[index]? = some failing) (failed : attempt failing = .error error)
    (before : ∀ earlier < index, ∀ element, list[earlier]? = some element →
      ∃ answer, attempt element = .ok answer) :
    list.mapM attempt = .error error := by
  induction list generalizing index with
  | nil => cases there
  | cons first rest ih =>
      rw [List.mapM_cons]
      cases index with
      | zero =>
          cases there
          rw [failed]
          rfl
      | succ index =>
          obtain ⟨answer, one⟩ := before 0 (Nat.succ_pos index) first rfl
          have others := ih there fun earlier less element found =>
            before (earlier + 1) (Nat.succ_lt_succ less) element found
          rw [one, others]
          rfl

/-- If a list of attempts fails, then as the first of them that does. -/
theorem exists_of_mapM_eq_error {attempt : α → Except ε β} {list : List α} {error : ε}
    (failed : list.mapM attempt = .error error) :
    ∃ (index : Nat) (failing : α), list[index]? = some failing ∧ attempt failing = .error error ∧
      ∀ earlier < index, ∀ element, list[earlier]? = some element →
        ∃ answer, attempt element = .ok answer := by
  induction list with
  | nil => cases failed
  | cons first rest ih =>
      rw [List.mapM_cons] at failed
      cases one : attempt first with
      | error other =>
          rw [one] at failed
          cases failed
          exact ⟨0, first, rfl, one, nofun⟩
      | ok answer =>
          rw [one] at failed
          cases many : rest.mapM attempt with
          | ok answers =>
              rw [many] at failed
              cases failed
          | error other =>
              rw [many] at failed
              cases failed
              obtain ⟨index, failing, there, broken, before⟩ := ih many
              refine ⟨index + 1, failing, there, broken, fun earlier less element found => ?_⟩
              cases earlier with
              | zero =>
                  cases found
                  exact ⟨answer, one⟩
              | succ earlier => exact before earlier (Nat.lt_of_succ_lt_succ less) element found

/-- Every answer of a list of attempts comes from one of them. -/
theorem exists_of_mem_mapM {attempt : α → Except ε β} {list : List α} {answers : List β}
    (succeeded : list.mapM attempt = .ok answers) {answer : β} (member : answer ∈ answers) :
    ∃ element ∈ list, attempt element = .ok answer := by
  have each := mapM_eq_ok.1 succeeded
  clear succeeded
  induction each with
  | nil => cases member
  | cons one many ih =>
      rcases List.mem_cons.1 member with rfl | member
      · exact ⟨_, List.mem_cons_self, one⟩
      · obtain ⟨element, inside, found⟩ := ih member
        exact ⟨element, List.mem_cons_of_mem _ inside, found⟩

/-- Each attempt of a list that succeeds has an answer. -/
theorem exists_of_mapM_eq_ok {attempt : α → Except ε β} {list : List α} {answers : List β}
    (succeeded : list.mapM attempt = .ok answers) {element : α} (member : element ∈ list) :
    ∃ answer, attempt element = .ok answer := by
  obtain ⟨position, inside, rfl⟩ := List.getElem_of_mem member
  have each := mapM_eq_ok.1 succeeded
  exact ⟨_, each.get inside (each.length_eq ▸ inside)⟩

/-- A list of attempts that each succeed. -/
theorem exists_mapM_eq_ok {attempt : α → Except ε β} {list : List α}
    (each : ∀ element ∈ list, ∃ answer, attempt element = .ok answer) :
    ∃ answers, list.mapM attempt = .ok answers := by
  induction list with
  | nil => exact ⟨[], rfl⟩
  | cons element rest ih =>
      obtain ⟨first, one⟩ := each element List.mem_cons_self
      obtain ⟨others, many⟩ := ih fun other member => each other (List.mem_cons_of_mem _ member)
      exact ⟨first :: others, mapM_eq_ok.2 (.cons one (mapM_eq_ok.1 many))⟩

theorem forM_eq_ok {attempt : α → Except ε Unit} {list : List α}
    (each : ∀ element ∈ list, attempt element = .ok ()) : list.forM attempt = .ok () := by
  induction list with
  | nil => rfl
  | cons element rest ih =>
      rw [List.forM, each element List.mem_cons_self]
      exact ih fun other member => each other (List.mem_cons_of_mem _ member)

/-! ## Failures -/

/-- The attempt can only fail for such a reason. -/
def FailsFor (reason : ε → Prop) (attempt : Except ε α) : Prop :=
  ∀ failure, attempt = .error failure → reason failure

section FailsFor

variable {reason : ε → Prop}

theorem failsFor_ok (answer : α) : FailsFor reason (.ok answer) := by
  intro failure failed
  cases failed

theorem failsFor_of_exists {attempt : Except ε α} (succeeds : ∃ answer, attempt = .ok answer) :
    FailsFor reason attempt := by
  obtain ⟨answer, rfl⟩ := succeeds
  exact failsFor_ok answer

theorem FailsFor.mono {weaker : ε → Prop} {attempt : Except ε α} (fails : FailsFor reason attempt)
    (weaken : ∀ failure, reason failure → weaker failure) : FailsFor weaker attempt :=
  fun failure failed => weaken failure (fails failure failed)

/-- A sequence of two steps fails if one of them does. -/
theorem FailsFor.bind {first : Except ε α} {next : α → Except ε β} (fails : FailsFor reason first)
    (each : ∀ answer, first = .ok answer → FailsFor reason (next answer)) :
    FailsFor reason (first >>= next) := by
  cases first with
  | error failure =>
      intro other failed
      cases failed
      exact fails failure rfl
  | ok answer => exact each answer rfl

/-- A list of attempts fails if one of them does. -/
theorem FailsFor.mapM {attempt : α → Except ε β} {list : List α}
    (each : ∀ element ∈ list, FailsFor reason (attempt element)) :
    FailsFor reason (list.mapM attempt) := by
  induction list with
  | nil => exact failsFor_ok []
  | cons element rest ih =>
      rw [List.mapM_cons]
      refine (each element List.mem_cons_self).bind fun answer _ => ?_
      refine (ih fun other member => each other (List.mem_cons_of_mem _ member)).bind ?_
      exact fun answers _ => failsFor_ok _

theorem FailsFor.map {change : α → β} {attempt : Except ε α} (fails : FailsFor reason attempt) :
    FailsFor reason (change <$> attempt) := by
  cases attempt with
  | error failure =>
      rintro _ ⟨⟩
      exact fails failure rfl
  | ok answer => exact failsFor_ok (change answer)

/-- Steps along a list fail if one of them does. -/
theorem FailsFor.foldlM {step : β → α → Except ε β} {list : List α}
    (each : ∀ before, ∀ element ∈ list, FailsFor reason (step before element)) (start : β) :
    FailsFor reason (list.foldlM step start) := by
  induction list generalizing start with
  | nil => exact failsFor_ok start
  | cons element rest ih =>
      rw [List.foldlM_cons]
      refine (each start element List.mem_cons_self).bind fun middle _ => ?_
      exact ih (fun before other member => each before other (List.mem_cons_of_mem _ member)) middle

end FailsFor

/-! ## The first failure -/

/-- The first attempt that fails is that with the number `first`; if it is the number of attempts,
none of them fails. -/
structure FirstFailure (attempt : Nat → Except ε α) (count first : Nat) :
    Prop where
  le : first ≤ count
  before : ∀ index, index < first → ∃ answer, attempt index = .ok answer
  fails : first < count → ∃ failure, attempt first = .error failure

theorem exists_firstFailure (attempt : Nat → Except ε α) (count : Nat) :
    ∃ first, FirstFailure attempt count first := by
  induction count with
  | zero => exact ⟨0, Nat.le_refl 0, nofun, nofun⟩
  | succ count ih =>
      obtain ⟨first, le, before, fails⟩ := ih
      rcases Nat.lt_or_eq_of_le le with less | rfl
      · exact ⟨first, Nat.le_succ_of_le le, before, fun _ => fails less⟩
      · cases here : attempt first with
        | error failure =>
            exact ⟨first, Nat.le_succ first, before, fun _ => ⟨failure, here⟩⟩
        | ok answer =>
            refine ⟨first + 1, Nat.le_refl _, fun index less => ?_,
              fun more => absurd more (Nat.lt_irrefl _)⟩
            rcases Nat.lt_succ_iff_lt_or_eq.1 less with earlier | rfl
            · exact before index earlier
            · exact ⟨answer, here⟩

/-! ## Agreement -/

/-- Both attempts succeed with answers that are the same in a given sense, or both fail in the
same way. -/
inductive Agree (same : α → α → Prop) : Except ε α → Except ε α → Prop
  | ok {answer other : α} (agree : same answer other) : Agree same (.ok answer) (.ok other)
  | error (failure : ε) : Agree same (.error failure) (.error failure)

namespace Agree

variable {same : α → α → Prop} {left right : Except ε α}

theorem refl (reflexive : ∀ answer, same answer answer) (attempt : Except ε α) :
    Agree same attempt attempt := by
  cases attempt with
  | error failure => exact .error failure
  | ok answer => exact .ok (reflexive answer)

theorem of_eq (equal : left = right) : Agree Eq left right :=
  equal ▸ refl (fun _ => rfl) left

theorem eq (agree : Agree Eq left right) : left = right := by
  cases agree with
  | ok equal => rw [equal]
  | error failure => rfl

theorem mono {weaker : α → α → Prop} (agree : Agree same left right)
    (implied : ∀ answer other, same answer other → weaker answer other) :
    Agree weaker left right := by
  cases agree with
  | ok agree => exact .ok (implied _ _ agree)
  | error failure => exact .error failure

theorem bind {after : β → β → Prop} {first second : α → Except ε β} (agree : Agree same left right)
    (next : ∀ answer other, same answer other → Agree after (first answer) (second other)) :
    Agree after (left >>= first) (right >>= second) := by
  cases agree with
  | ok agree => exact next _ _ agree
  | error failure => exact .error failure

/-- The same attempt goes on in two ways. -/
theorem bind_self {after : β → β → Prop} {attempt : Except ε α} {first second : α → Except ε β}
    (next : ∀ answer, attempt = .ok answer → Agree after (first answer) (second answer)) :
    Agree after (attempt >>= first) (attempt >>= second) := by
  cases attempt with
  | ok answer => exact next answer rfl
  | error failure => exact .error failure

theorem map {after : β → β → Prop} {first second : α → β} (agree : Agree same left right)
    (next : ∀ answer other, same answer other → after (first answer) (second other)) :
    Agree after (first <$> left) (second <$> right) := by
  cases agree with
  | ok agree => exact .ok (next _ _ agree)
  | error failure => exact .error failure

/-- Attempts for the elements of two lists agree if each two of them do. -/
theorem mapM {γ : Type} {related : γ → γ → Prop} {first second : γ → Except ε α}
    {list others : List γ} (pairs : List.Forall₂ related list others)
    (each : ∀ element other, related element other → Agree same (first element) (second other)) :
    Agree (List.Forall₂ same) (list.mapM first) (others.mapM second) := by
  induction pairs with
  | nil => exact .ok .nil
  | cons head tail ih =>
      rw [List.mapM_cons, List.mapM_cons]
      refine (each _ _ head).bind fun answer other one => ih.bind fun answers others many => ?_
      exact .ok (.cons one many)

end Agree

/-! ## Likeness -/

/-- Both attempts succeed with the same answer, or both fail. -/
inductive Alike : Except ε α → Except ε α → Prop
  | ok (answer : α) : Alike (.ok answer) (.ok answer)
  | error (failure other : ε) : Alike (.error failure) (.error other)

namespace Alike

variable {left right : Except ε α}

theorem refl (attempt : Except ε α) : Alike attempt attempt := by
  cases attempt with
  | error failure => exact .error failure failure
  | ok answer => exact .ok answer

theorem of_eq (equal : left = right) : Alike left right :=
  equal ▸ refl left

theorem trans {middle : Except ε α} (first : Alike left middle) (second : Alike middle right) :
    Alike left right := by
  cases first with
  | ok answer => exact second
  | error failure refusal =>
      cases second with
      | error _ other => exact .error failure other

theorem bind {first second : α → Except ε β} (alike : Alike left right)
    (next : ∀ answer, Alike (first answer) (second answer)) :
    Alike (left >>= first) (right >>= second) := by
  cases alike with
  | ok answer => exact next answer
  | error failure other => exact .error failure other

/-- The same attempt goes on in two ways. -/
theorem bind_self {attempt : Except ε α} {first second : α → Except ε β}
    (next : ∀ answer, attempt = .ok answer → Alike (first answer) (second answer)) :
    Alike (attempt >>= first) (attempt >>= second) := by
  cases attempt with
  | ok answer => exact next answer rfl
  | error failure => exact .error failure failure

/-- Attempts for the elements of two lists are alike if each two of them are. -/
theorem mapM {γ δ : Type} {first : γ → Except ε α} {second : δ → Except ε α} {list : List γ}
    {others : List δ}
    (pairs : List.Forall₂ (fun element other => Alike (first element) (second other)) list others) :
    Alike (list.mapM first) (others.mapM second) := by
  induction pairs with
  | nil => exact .ok []
  | cons head tail ih =>
      rw [List.mapM_cons, List.mapM_cons]
      exact head.bind fun answer => ih.bind fun answers => .ok (answer :: answers)

end Alike

/-- Both attempts succeed, with answers that are related, or both fail. -/
inductive Parallel (same : α → β → Prop) : Except ε α → Except ε β → Prop
  | ok {answer : α} {other : β} (related : same answer other) :
      Parallel same (.ok answer) (.ok other)
  | error (failure other : ε) : Parallel same (.error failure) (.error other)

namespace Parallel

variable {γ δ : Type} {same : α → β → Prop} {left : Except ε α} {right : Except ε β}

theorem refl {same : α → α → Prop} (reflexive : ∀ answer, same answer answer)
    (attempt : Except ε α) : Parallel same attempt attempt := by
  cases attempt with
  | error failure => exact .error failure failure
  | ok answer => exact .ok (reflexive answer)

theorem bind {after : γ → δ → Prop} {first : α → Except ε γ} {second : β → Except ε δ}
    (parallel : Parallel same left right)
    (next : ∀ answer other, left = .ok answer → same answer other →
      Parallel after (first answer) (second other)) :
    Parallel after (left >>= first) (right >>= second) := by
  cases parallel with
  | ok related => exact next _ _ rfl related
  | error failure other => exact .error failure other

theorem alike {other : Except ε α} (parallel : Parallel Eq left other) : Alike left other := by
  cases parallel with
  | ok equal => exact equal ▸ .ok _
  | error failure refusal => exact .error failure refusal

end Parallel

end Except
