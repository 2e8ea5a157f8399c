import ColumnStore.Client.Statement
import ColumnStore.Proofs.Client.Agreement
import ColumnStore.Proofs.Lists

/-!
# Prepared statements of two layouts

A statement that is prepared over two libraries that agree is the same statement: the tags of
its parameters are read back to the same types, all of them portable, so that NULL has a datum
under both layouts. Binding takes the same values and refuses the same, and executing leads to
the same outcome.

Main results: `Connection.agree_prepare`, `PreparedStatement.agree_bind` and
`PreparedStatement.agree_execute`.
-/

set_option autoImplicit false

namespace ColumnStore

variable {σ : Type} {related : σ → σ → Prop} {left right : TagLayout}

/-- The same statement, prepared over two libraries that agree. -/
structure PreparedStatement.Agrees (related : σ → σ → Prop) (left right : TagLayout)
    (statement other : PreparedStatement σ) : Prop where
  connection : statement.connection.Agrees related left right other.connection
  handle : statement.handle = other.handle
  types : statement.types = other.types
  metadata : statement.metadata = other.metadata
  slots : statement.slots = other.slots
  portable : ∀ type ∈ statement.types, type.Portable

namespace PreparedStatement

variable {connection second : Connection σ} {statement other : PreparedStatement σ}

/-! ## Preparing -/

/-- Tags of the same types are read back to these types. -/
theorem agree_typesOfTags {tags others : List Int32}
    (pairs : List.Forall₂ (SameTag left right) tags others) :
    Except.Agree (fun types known => (∀ type ∈ types, type.Portable) ∧ types = known)
      (typesOfTags left tags) (typesOfTags right others) := by
  have each : Except.Agree (List.Forall₂ fun type known => type.Portable ∧ type = known)
      (typesOfTags left tags) (typesOfTags right others) := by
    apply Except.Agree.mapM (pairs.zipIdx 0)
    intro entry other same
    obtain ⟨type, portable, first, second⟩ := same
    rw [first, second]
    exact .ok ⟨portable, rfl⟩
  refine each.mono ?_
  intro types known agree
  rwa [List.forall₂_and_left, List.forall₂_eq_eq_eq] at agree

theorem agree_shownTags {live another : LiveStatement}
    (agree : LiveStatement.Agrees left right live another) :
    List.Forall₂ (SameTag left right) (shownTags live) (shownTags another) := by
  obtain ⟨_, count, tags⟩ := agree
  unfold shownTags
  generalize live.tags = shown at tags ⊢
  generalize another.tags = others at tags ⊢
  cases tags with
  | none => exact .nil
  | some pairs =>
      dsimp only
      rw [count]
      exact List.forall₂_take _ pairs

theorem agree_describe (agree : connection.Agrees related left right second)
    (description : LiveResult) :
    Call.Agree related Eq (describe connection description) (describe second description) := by
  have reading : Call.Agree related Eq (connection.api.metadata description)
      (second.api.metadata description) :=
    (Api.agree_columns agree.api description).bind_eq fun columns =>
      Api.agree_settle (.of_eq rfl)
  have releasing := Api.agree_cleanupResult agree.api connection.handle description.handle
  intro state later start
  dsimp only [ExceptT.run]
  obtain ⟨answers, middle⟩ := reading.outcomes start
  rcases run : connection.api.metadata description state with ⟨outcome, reached⟩
  rcases other : second.api.metadata description later with ⟨answer, final⟩
  rw [run, other] at answers middle
  obtain rfl : outcome = answer := answers.eq
  have middle : related reached final := middle
  by_cases stopped : outcome = .error .overflow
  · subst stopped
    rw [describe_of_overflow run, describe_of_overflow other]
    exact ⟨.error _, middle⟩
  · rw [describe_of_read run stopped, describe_of_read other stopped, ← agree.handle]
    obtain ⟨released, ends⟩ := releasing.outcomes middle
    refine ⟨.of_eq ?_, ends⟩
    dsimp only
    rw [released.eq]

theorem agree_release (agree : statement.Agrees related left right other) :
    Call.Agree related Eq statement.release other.release := by
  rw [release, release, agree.handle, agree.connection.handle]
  exact Api.agree_cleanupStatement agree.connection.api _ _

theorem agree_ofPrepared (agree : connection.Agrees related left right second)
    {live another : LiveStatement} (same : LiveStatement.Agrees left right live another)
    (description : Option LiveResult) :
    Call.Agree related (Agrees related left right) (ofPrepared connection live description)
      (ofPrepared second another description) := by
  unfold ofPrepared
  rw [← agree.handle, ← same.handle, agree.api.first, agree.api.second]
  refine Call.Agree.tryCatch ?_ fun error =>
    Api.agree_abandon (Api.agree_cleanupStatement agree.api _ _) error
  refine (Api.agree_settle (agree_typesOfTags (agree_shownTags same))).bind ?_
  rintro types _ ⟨portable, rfl⟩
  have described (metadata another : Metadata) : metadata = another →
      Call.Agree related (Agrees related left right)
        (pure ⟨connection, live.handle, types, metadata, types.map fun _ => none⟩)
        (pure ⟨second, live.handle, types, another, types.map fun _ => none⟩) := by
    rintro rfl
    exact Call.agree_pure ⟨agree, rfl, rfl, rfl, rfl, portable⟩
  cases description with
  | none => exact (Call.agree_pure rfl).bind described
  | some description => exact (agree_describe agree description).bind described

end PreparedStatement

/-- **A portable text is prepared to the same statement.** -/
theorem Connection.agree_prepare {connection second : Connection σ}
    (agree : connection.Agrees related left right second) {text : String}
    (portable : PortableText text) :
    Call.Agree related (PreparedStatement.Agrees related left right) (connection.prepare text)
      (second.prepare text) := by
  refine Api.agree_settle_bind fun sent terminated => ?_
  have spelled : PortableText sent.toString := by
    rwa [Connection.toString_of_terminated terminated]
  rw [← agree.handle]
  refine (Api.agree_prepare agree.api _ spelled).bind ?_
  rintro ⟨live, description⟩ ⟨another, _⟩ ⟨statement, rfl⟩
  exact PreparedStatement.agree_ofPrepared agree statement description

namespace PreparedStatement

variable {statement other : PreparedStatement σ}

/-! ## Binding -/

/-- The same outcome, and the same statement after it. -/
def Changed (related : σ → σ → Prop) (left right : TagLayout)
    (answer other : Except Error Unit × PreparedStatement σ) : Prop :=
  answer.1 = other.1 ∧ answer.2.Agrees related left right other.2

theorem agree_install (agree : statement.Agrees related left right other) (slot : Nat)
    (datum : NativeDatum) :
    Agree related (Changed related left right) (install slot datum statement)
      (install slot datum other) := by
  intro state later start
  obtain ⟨connection, handle, types, metadata, slots, portable⟩ := agree
  obtain ⟨answers, final⟩ :=
    Api.agree_bind connection.api statement.handle datum slot state later start
  unfold install
  rw [← handle]
  refine ⟨⟨answers.eq, connection, rfl, types, metadata, ?_, portable⟩, final⟩
  exact congrArg (·.set slot (some datum)) slots

theorem agree_bindWith (agree : statement.Agrees related left right other) (index : Nat)
    {datum another : PreparedStatement σ → Nat → Call σ NativeDatum}
    (data : ∀ slot, Call.Agree related Eq (datum statement slot) (another other slot)) :
    Agree related (Changed related left right) (bindWith index datum statement)
      (bindWith index another other) := by
  intro state later start
  have slots : other.slot index = statement.slot index := by rw [slot, slot, agree.types]
  unfold bindWith
  rw [slots]
  cases statement.slot index with
  | error error => exact ⟨⟨rfl, agree⟩, start⟩
  | ok slot =>
      have both := (data slot).outcomes start
      dsimp only
      generalize datum statement slot state = first at both ⊢
      generalize another other slot later = next at both ⊢
      obtain ⟨answer, middle⟩ := first
      obtain ⟨result, last⟩ := next
      obtain ⟨answers, kept⟩ := both
      cases answers with
      | error error => exact ⟨⟨rfl, agree⟩, kept⟩
      | ok same =>
          subst same
          exact agree_install agree slot _ _ _ kept

/-- The type of a parameter is portable, and so is the type that stands for none. -/
theorem Agrees.typeAt_portable (agree : statement.Agrees related left right other) (slot : Nat) :
    (statement.typeAt slot).Portable := by
  unfold typeAt
  cases found : statement.types[slot]? with
  | none =>
      intro wrong
      cases wrong
  | some type => exact agree.portable type (List.mem_of_getElem? found)

theorem Agrees.typeAt_eq (agree : statement.Agrees related left right other) (slot : Nat) :
    statement.typeAt slot = other.typeAt slot := by
  rw [typeAt, typeAt, agree.types]

theorem Agrees.scaleAt_eq (agree : statement.Agrees related left right other) (slot : Nat) :
    statement.scaleAt slot = other.scaleAt slot := by
  rw [scaleAt, scaleAt, agree.types, agree.metadata]

theorem agree_nullDatum (agree : statement.Agrees related left right other) (slot : Nat) :
    Call.Agree related Eq (nullDatum statement slot) (nullDatum other slot) := by
  rw [nullDatum, nullDatum, ← agree.typeAt_eq, ← agree.connection.handle]
  exact Api.agree_nullValue agree.connection.api _ (agree.typeAt_portable slot)

theorem agree_bindNull (agree : statement.Agrees related left right other) (index : Nat) :
    Agree related (Changed related left right) (bindNull index statement)
      (bindNull index other) :=
  agree_bindWith agree index (agree_nullDatum agree)

/-- **Binding a value does the same.** -/
theorem agree_bind (agree : statement.Agrees related left right other) (index : Nat)
    (value : Value) :
    Agree related (Changed related left right) (bind index value statement)
      (bind index value other) := by
  apply agree_bindWith agree index
  intro slot
  split
  · exact agree_nullDatum agree slot
  · rw [agree.typeAt_eq, agree.scaleAt_eq]
    exact Api.agree_settle (.of_eq rfl)

theorem agree_bindAs (agree : statement.Agrees related left right other) (type : ColumnType)
    (index : Nat) (datum : NativeDatum) :
    Agree related (Changed related left right) (bindAs type index datum statement)
      (bindAs type index datum other) := by
  apply agree_bindWith agree index
  intro slot
  rw [agree.typeAt_eq]
  exact Api.agree_settle (.of_eq rfl)

/-! ## Running -/

/-- **Executing a statement has the same outcome.** -/
theorem agree_execute (agree : statement.Agrees related left right other)
    (options : QueryOptions) :
    Call.Agree related (Outcome.Agrees related left right) (statement.execute options)
      (other.execute options) := by
  rw [execute, execute, ← agree.handle]
  refine (Api.agree_execute agree.connection.api _).bind_eq fun executed => ?_
  exact Outcome.agree_ofExecuted agree.connection _ options

/-- The statement is shown the same. -/
theorem Agrees.description_eq (agree : statement.Agrees related left right other) :
    statement.description = other.description := by
  unfold description
  rw [agree.types, agree.metadata]

end PreparedStatement

end ColumnStore
