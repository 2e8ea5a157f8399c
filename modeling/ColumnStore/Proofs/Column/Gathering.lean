import ColumnStore.Proofs.Client.Call
import ColumnStore.Proofs.Column.Materialize

/-!
# Gathering the columns of a result

Columns are gathered by index, one after the other. When some have been gathered, their buffers
are as a pass over each of them leaves it, all other buffers are as they were, and the indexes
have been asked for in order (`DescriptorShelf.Reached`). One column more keeps this. The first
index that fails ends the gathering: it was asked for as well, but nothing was written for it, and
its error is the answer (`DescriptorShelf.stops_at_first_failure`).
-/

set_option autoImplicit false

namespace ColumnStore

/-! ## Descriptors that are refused -/

namespace Descriptor

variable {descriptor : Descriptor} {layout : TagLayout} {index : Nat} {error : Error}

/-- Why a descriptor cannot be materialized. Its tag does not name the type that its cells are laid
out for: it names none, or the unknown type, which no cells are laid out for; or it has no code, and
the program stops. Or it has rows of a fixed width, but no buffer. -/
inductive Refuses (descriptor : Descriptor) (layout : TagLayout) (index : Nat) : Error → Prop
  | unsupported {named : Option ColumnType} (decoded : layout.decode? descriptor.tag = .ok named)
      (unnamed : named ≠ some descriptor.cells.type) :
      Refuses descriptor layout index (.unsupportedType index descriptor.tag)
  | stopped (unfit : ¬ layout.Fits descriptor.tag) : Refuses descriptor layout index .overflow
  | bufferless {kind : FixedKind} {count : Nat} {nullTest : Option (kind.Cell → Int32)}
      (named : layout.decode? descriptor.tag = .ok (some (.fixed kind)))
      (laid : descriptor.cells = .fixed kind ⟨.missing count, nullTest⟩) (rows : 0 < count) :
      Refuses descriptor layout index
        (.native .resultFetch s!"column has {count} rows but no data buffer")

/-- What a pass leaves does not depend on the index, which only errors mention. -/
theorem materialize_snd_eq_passed (descriptor : Descriptor) (layout : TagLayout) (index : Nat) :
    (descriptor.materialize layout index).2 = descriptor.passed layout := by
  unfold passed
  by_cases named : layout.decode? descriptor.tag = .ok (some descriptor.cells.type)
  · cases laid : descriptor.cells with
    | fixed kind array =>
        rw [laid] at named
        rw [materialize_of_fixed named laid, materialize_of_fixed named laid]
    | boxed kind array =>
        rw [laid] at named
        rw [materialize_of_boxed named laid, materialize_of_boxed named laid]
  · obtain ⟨_, here⟩ := exists_materialize_eq_error named index
    obtain ⟨_, there⟩ := exists_materialize_eq_error named 0
    rw [here, there]

/-- A descriptor is refused for one of these reasons alone. -/
theorem materialize_eq_error :
    (descriptor.materialize layout index).1 = .error error ↔
      descriptor.Refuses layout index error := by
  constructor
  · intro failed
    cases decoded : layout.decode? descriptor.tag with
    | error stop =>
        rw [materialize_stopped decoded] at failed
        cases failed
        obtain ⟨unfit, rfl⟩ := TagLayout.decode?_eq_error.1 decoded
        exact .stopped unfit
    | ok named =>
        by_cases unnamed : named = some descriptor.cells.type
        · subst unnamed
          cases laid : descriptor.cells with
          | fixed kind array =>
              rw [laid] at decoded
              rw [materialize_of_fixed decoded laid] at failed
              obtain ⟨storage, nullTest⟩ := array
              cases storage with
              | missing count =>
                  cases count with
                  | zero => cases failed
                  | succ rows =>
                      cases failed
                      exact .bufferless decoded laid (Nat.succ_pos rows)
              | buffer cells =>
                  rw [FixedColumn.ofCells_buffer _ _ rfl] at failed
                  cases failed
          | boxed kind array =>
              rw [laid] at decoded
              rw [materialize_of_boxed decoded laid] at failed
              cases failed
        · rw [materialize_unnamed decoded unnamed] at failed
          cases failed
          exact .unsupported decoded unnamed
  · intro refuses
    cases refuses with
    | unsupported decoded unnamed => rw [materialize_unnamed decoded unnamed]
    | stopped unfit => rw [materialize_stopped (TagLayout.decode?_eq_error.2 ⟨unfit, rfl⟩)]
    | @bufferless kind count nullTest named laid rows =>
        obtain ⟨rows, rfl⟩ := Nat.exists_eq_succ_of_ne_zero (Nat.ne_of_gt rows)
        rw [materialize_of_fixed named laid]
        rfl

/-- Nothing is written to a descriptor that is refused. -/
theorem passed_of_refuses (refuses : descriptor.Refuses layout index error) :
    descriptor.passed layout = descriptor := by
  cases refuses with
  | unsupported decoded unnamed => rw [passed, materialize_unnamed decoded unnamed]
  | stopped unfit => rw [passed, materialize_stopped (TagLayout.decode?_eq_error.2 ⟨unfit, rfl⟩)]
  | @bufferless kind count nullTest named laid rows =>
      obtain ⟨rows, rfl⟩ := Nat.exists_eq_succ_of_ne_zero (Nat.ne_of_gt rows)
      rw [passed, materialize_of_fixed named laid]
      obtain ⟨tag, name, digits, scale, cells⟩ := descriptor
      cases laid
      rfl

end Descriptor

/-! ## Descriptors on a shelf -/

namespace DescriptorShelf

variable {layout : TagLayout} {refusal : Nat → Option Error} {descriptors : List Descriptor}
  {index first count : Nat} {error : Error} {fetched : Column}

/-- The outcome of asking for one column alone. -/
def alone (layout : TagLayout) (refusal : Nat → Option Error) (descriptors : List Descriptor)
    (index : Nat) : Except Error Column :=
  (column layout refusal index ⟨descriptors, []⟩).1

/-- There is a column at an index: its descriptor is fetched and materialized. -/
structure Fetches (layout : TagLayout) (refusal : Nat → Option Error)
    (descriptors : List Descriptor) (index : Nat) (fetched : Column) : Prop where
  accepted : refusal index = none
  materialized : ∃ descriptor, descriptors[index]? = some descriptor ∧
    (descriptor.materialize layout index).1 = .ok fetched

/-- Why there is no column at an index: fetching it fails, or there is no such descriptor, or it
cannot be materialized. -/
inductive Fails (layout : TagLayout) (refusal : Nat → Option Error)
    (descriptors : List Descriptor) (index : Nat) : Error → Prop
  | refused {error : Error} (refused : refusal index = some error) :
      Fails layout refusal descriptors index error
  | absent (accepted : refusal index = none) (absent : descriptors[index]? = none) :
      Fails layout refusal descriptors index (.columnIndexNotFound index)
  | refuses {error : Error} {descriptor : Descriptor} (accepted : refusal index = none)
      (there : descriptors[index]? = some descriptor)
      (refuses : descriptor.Refuses layout index error) :
      Fails layout refusal descriptors index error

theorem alone_eq_ok :
    alone layout refusal descriptors index = .ok fetched ↔
      Fetches layout refusal descriptors index fetched := by
  unfold alone column
  constructor
  · intro answered
    dsimp only at answered
    split at answered
    · cases answered
    · cases answered
    · next descriptor accepted there => exact ⟨accepted, descriptor, there, answered⟩
  · rintro ⟨accepted, descriptor, there, materialized⟩
    simp only [accepted, there, materialized]

theorem alone_eq_error :
    alone layout refusal descriptors index = .error error ↔
      Fails layout refusal descriptors index error := by
  unfold alone column
  constructor
  · intro failed
    dsimp only at failed
    split at failed
    · next other refused =>
        cases failed
        exact .refused refused
    · next accepted absent =>
        cases failed
        exact .absent accepted absent
    · next descriptor accepted there =>
        exact .refuses accepted there (Descriptor.materialize_eq_error.1 failed)
  · intro fails
    cases fails with
    | refused refused => simp only [refused]
    | absent accepted absent => simp only [accepted, absent]
    | refuses accepted there refuses =>
        simp only [accepted, there, Descriptor.materialize_eq_error.2 refuses]

/-- The descriptors when those below an index have been passed over. -/
def passedBelow (layout : TagLayout) (index : Nat) (descriptors : List Descriptor) :
    List Descriptor :=
  descriptors.mapIdx fun other descriptor =>
    if other < index then descriptor.passed layout else descriptor

theorem getElem?_passedBelow (layout : TagLayout) (index : Nat) (descriptors : List Descriptor)
    (other : Nat) :
    (passedBelow layout index descriptors)[other]? =
      descriptors[other]?.map fun descriptor =>
        if other < index then descriptor.passed layout else descriptor :=
  List.getElem?_mapIdx

/-- The shelf when the columns below an index have been gathered. -/
def reached (layout : TagLayout) (index : Nat) (descriptors : List Descriptor) : DescriptorShelf :=
  ⟨passedBelow layout index descriptors, (List.range index).reverse⟩

theorem reached_zero (layout : TagLayout) (descriptors : List Descriptor) :
    reached layout 0 descriptors = ⟨descriptors, []⟩ := by
  have same : passedBelow layout 0 descriptors = descriptors := by
    refine List.ext_getElem? fun index => ?_
    rw [getElem?_passedBelow]
    simp only [Nat.not_lt_zero, if_false, Option.map_id']
  rw [reached, same]
  rfl

/-- **One column more**: it is asked for and passed over. -/
theorem column_of_fetches (fetches : Fetches layout refusal descriptors index fetched) :
    column layout refusal index (reached layout index descriptors) =
      (.ok fetched, reached layout (index + 1) descriptors) := by
  obtain ⟨accepted, descriptor, there, materialized⟩ := fetches
  have current : (passedBelow layout index descriptors)[index]? = some descriptor := by
    rw [getElem?_passedBelow, there, Option.map_some, if_neg (Nat.lt_irrefl index)]
  have next : (passedBelow layout index descriptors).set index (descriptor.passed layout) =
      passedBelow layout (index + 1) descriptors := by
    refine List.ext_getElem? fun other => ?_
    rw [getElem?_passedBelow]
    by_cases here : index = other
    · subst here
      rw [List.getElem?_set_self (List.getElem?_eq_some_iff.1 current).1, there, Option.map_some,
        if_pos (Nat.lt_succ_self index)]
    · rw [List.getElem?_set_ne here, getElem?_passedBelow]
      simp only [show other < index + 1 ↔ other < index by omega]
  simp only [column, reached, accepted, current]
  rw [Descriptor.materialize_snd_eq_passed, materialized, next, List.range_succ,
    List.reverse_append]
  rfl

/-- A column that fails is asked for, and nothing is written. -/
theorem column_of_fails (fails : Fails layout refusal descriptors index error) :
    column layout refusal index (reached layout index descriptors) =
      (.error error, ⟨passedBelow layout index descriptors, (List.range (index + 1)).reverse⟩) := by
  have asked : (List.range (index + 1)).reverse = index :: (List.range index).reverse := by
    rw [List.range_succ, List.reverse_append]
    rfl
  have same (descriptor : Descriptor) (there : descriptors[index]? = some descriptor) :
      (passedBelow layout index descriptors)[index]? = some descriptor := by
    rw [getElem?_passedBelow, there, Option.map_some, if_neg (Nat.lt_irrefl index)]
  rw [asked]
  cases fails with
  | refused refused => simp only [column, reached, refused]
  | absent accepted absent =>
      have none_ : (passedBelow layout index descriptors)[index]? = none := by
        rw [getElem?_passedBelow, absent, Option.map_none]
      simp only [column, reached, accepted, none_]
  | @refuses error descriptor accepted there refuses =>
      have current := same descriptor there
      have unchanged : (passedBelow layout index descriptors).set index descriptor =
          passedBelow layout index descriptors := by
        refine List.ext_getElem? fun other => ?_
        by_cases here : index = other
        · subst here
          rw [List.getElem?_set_self (List.getElem?_eq_some_iff.1 current).1, current]
        · rw [List.getElem?_set_ne here]
      simp only [column, reached, accepted, current]
      rw [Descriptor.materialize_snd_eq_passed, Descriptor.passed_of_refuses refuses, unchanged,
        Descriptor.materialize_eq_error.2 refuses]

/-- What the gathering of columns up to the first failure does. -/
theorem gather_of_firstFailure (rowCount : Nat)
    (stops : Except.FirstFailure (alone layout refusal descriptors) count first) :
    ∃ outcome,
      Columns.gather count rowCount (column layout refusal) ⟨descriptors, []⟩ =
        (outcome, ⟨passedBelow layout first descriptors,
          (List.range (min (first + 1) count)).reverse⟩) ∧
      (∀ error, first < count → alone layout refusal descriptors first = .error error →
        outcome = .error error) ∧
      (first = count → ∃ columns, outcome = .ok ⟨columns, rowCount⟩ ∧ columns.length = count ∧
        ∀ index fetched, columns[index]? = some fetched →
          alone layout refusal descriptors index = .ok fetched) := by
  have step (index : Nat) (earlier : index < first) (shelf : DescriptorShelf)
      (before : shelf = reached layout index descriptors) :
      ∃ fetched next, column layout refusal index shelf = (.ok fetched, next) ∧
        alone layout refusal descriptors index = .ok fetched ∧
        next = reached layout (index + 1) descriptors := by
    obtain ⟨fetched, answered⟩ := stops.before index earlier
    rw [before]
    exact ⟨fetched, _, column_of_fetches (alone_eq_ok.1 answered), answered, rfl⟩
  have start : ⟨descriptors, []⟩ = reached layout 0 descriptors :=
    (reached_zero layout descriptors).symm
  rcases Nat.lt_or_eq_of_le stops.le with less | rfl
  · obtain ⟨error, failed⟩ := stops.fails less
    obtain ⟨final, gathered, rfl⟩ := Columns.gather_of_failure
      (fun index shelf => shelf = reached layout index descriptors) less rowCount
      (fun index earlier shelf before => by
        obtain ⟨fetched, next, one, _, after⟩ := step index earlier shelf before
        exact ⟨fetched, next, one, after⟩)
      (fun shelf before => ⟨_, before ▸ column_of_fails (alone_eq_error.1 failed), rfl⟩) start
    refine ⟨.error error, ?_, fun other _ same => ?_, fun all => absurd less (by omega)⟩
    · rw [gathered, Nat.min_eq_left less]
    · rw [failed] at same
      cases same
      rfl
  · obtain ⟨columns, final, gathered, length, known, rfl⟩ := Columns.gather_ok
      (fun index shelf => shelf = reached layout index descriptors)
      (fun index fetched => alone layout refusal descriptors index = .ok fetched)
      rowCount step start
    refine ⟨.ok ⟨columns, rowCount⟩, ?_, fun _ less => absurd less (Nat.lt_irrefl _),
      fun _ => ⟨columns, rfl, length, known⟩⟩
    rw [gathered, Nat.min_eq_right (Nat.le_succ first)]
    rfl

/-- **Gathering stops at the first failure.** It asks for the indexes up to the first that fails,
in order, and for no other. The columns in front of it have been passed over, and no other
descriptor has changed. The answer is the error of that index; if there is none, it is all columns
in order, each as its own descriptor is materialized, with the number of rows that was given. -/
theorem stops_at_first_failure (layout : TagLayout) (refusal : Nat → Option Error)
    (descriptors : List Descriptor) (count rowCount : Nat) :
    ∃ (first : Nat) (outcome : Except Error Columns) (shelf : DescriptorShelf),
      (Columns.gather count rowCount (column layout refusal)).run ⟨descriptors, []⟩ =
        (outcome, shelf) ∧
      first ≤ count ∧
      (∀ index error, index < first → ¬ Fails layout refusal descriptors index error) ∧
      (first < count →
        ∃ error, Fails layout refusal descriptors first error ∧ outcome = .error error) ∧
      (first = count → ∃ columns, outcome = .ok ⟨columns, rowCount⟩ ∧ columns.length = count ∧
        ∀ index fetched, columns[index]? = some fetched →
          ∃ descriptor : Descriptor, descriptors[index]? = some descriptor ∧
            (descriptor.materialize layout index).1 = .ok fetched) ∧
      shelf.asked.reverse = List.range (min (first + 1) count) ∧
      shelf.descriptors.length = descriptors.length ∧
      (∀ index descriptor, descriptors[index]? = some descriptor → index < first →
        shelf.descriptors[index]? = some (descriptor.materialize layout index).2) ∧
      ∀ index, first ≤ index → shelf.descriptors[index]? = descriptors[index]? := by
  obtain ⟨first, stops⟩ := Except.exists_firstFailure (alone layout refusal descriptors) count
  obtain ⟨outcome, gathered, failed, succeeded⟩ := gather_of_firstFailure rowCount stops
  refine ⟨first, outcome, _, gathered, stops.le, ?early, ?error, ?columns, ?asked, ?length, ?passed,
    ?untouched⟩
  case early =>
    intro index error earlier fails
    obtain ⟨fetched, answered⟩ := stops.before index earlier
    rw [alone_eq_error.2 fails] at answered
    cases answered
  case error =>
    intro less
    obtain ⟨error, there⟩ := stops.fails less
    exact ⟨error, alone_eq_error.1 there, failed error less there⟩
  case columns =>
    intro all
    obtain ⟨columns, same, length, known⟩ := succeeded all
    exact ⟨columns, same, length, fun index fetched there =>
      (alone_eq_ok.1 (known index fetched there)).materialized⟩
  case asked => exact List.reverse_reverse _
  case length => exact List.length_mapIdx
  case passed =>
    intro index descriptor there earlier
    rw [getElem?_passedBelow, there, Option.map_some, if_pos earlier,
      Descriptor.materialize_snd_eq_passed]
  case untouched =>
    intro index behind
    rw [getElem?_passedBelow]
    simp only [Nat.not_lt.2 behind, if_false, Option.map_id']

end DescriptorShelf

end ColumnStore
