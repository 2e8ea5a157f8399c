import ColumnStore.Proofs.Client.Binding

/-!
# Values that are bound as NULL

NULL has a native form in every type, and a value may have the same one: the least integer of the
storage, which for a decimal is the least unscaled integer, or a floating point number that is
none. Nothing keeps such a value from being bound, and the engine then records NULL. No other
value is ever recorded as NULL.

Main result: `PreparedStatement.recorded_eq_null_iff`.
-/

set_option autoImplicit false

namespace ColumnStore

namespace PreparedStatement

section Recorded

variable {connection : Connection Engine} {text : String} {engine start later final : Engine}
  {prepared statement changed : PreparedStatement Engine} {given : List (Option Value)}
  {index : Nat} {value : Value}

/-- Only the parameters of a statement are bound. -/
theorem index_of_bind (bound : statement.bind index value later = ((.ok (), changed), final)) :
    index - 1 < statement.types.length := by
  simp only [bind, bindWith] at bound
  cases found : statement.slot index with
  | error error =>
      rw [found] at bound
      cases bound
  | ok slot =>
      obtain ⟨rfl, inside⟩ := slot_eq_ok found
      exact inside

/-- **A value is recorded as NULL exactly if its native form is the one reserved for NULL**,
whatever was bound and requested since the statement was prepared. -/
theorem recorded_eq_null_iff (inProcess : connection.InProcess)
    (matching : ∀ database, engine.database? (some connection.handle) = some database →
      database.layout = connection.api.layout)
    (accepted : connection.prepare text engine = (.ok prepared, start))
    (bindings : Bindings prepared start statement given later)
    (present : value ≠ .null)
    (bound : statement.bind index value later = ((.ok (), changed), final)) :
    ∃ stored type recorded, final.statement? (some changed.handle) = some stored ∧
      stored.parameters[index - 1]? = some type ∧
      stored.bound[index - 1]? = some (some recorded) ∧
      (recorded = .null ↔ type.Reserves value) := by
  obtain ⟨_, parsed, parameters, _, _, _, _, _, tracks⟩ :=
    tracks_of_prepare inProcess matching accepted
  have before := tracks_of_bindings tracks bindings
  have after := before.bind index value
  rw [bound] at after
  obtain ⟨recordings, kept, binds⟩ := after.kept
  have inside : index - 1 < parameters.length := before.length_types ▸ index_of_bind bound
  have typed := List.getElem?_eq_getElem inside
  have last : (given.set (index - 1) (some value))[index - 1]? = some (some value) := by
    have known := before.kept
    obtain ⟨_, _, earlier⟩ := known
    exact List.getElem?_set_self (earlier.given_length ▸ inside)
  obtain ⟨recorded, there, records⟩ := binds.records _ _ value typed last
  exact ⟨_, _, recorded, kept, typed, there, records.eq_null_iff present⟩

end Recorded

/-! ## A value that is lost -/

/-- A table with the least number of 32 bits in it, which is not NULL there. -/
def leastStored : List Engine.Request :=
  [.openDatabase ⟨true⟩ true none none, .sql "CREATE TABLE t (a INT)",
    .sql "INSERT INTO t VALUES (-2147483648)"]

/-- A connection to this database. -/
def leastOpened : Connection Engine :=
  Connection.toFirst ⟨true⟩

theorem layout_leastOpened {database : Database}
    (opened : (Engine.after leastStored).database? (some leastOpened.handle) = some database) :
    database.layout = leastOpened.api.layout :=
  (Engine.openedWith_after _ _ _ _).layout_of_database? opened

/-- The rows with a number are to be removed. -/
def leastPrepared : Except Error (PreparedStatement Engine) × Engine :=
  leastOpened.prepare "DELETE FROM t WHERE a = ?" (Engine.after leastStored)

/-- The least number of 32 bits. -/
def least : Value :=
  .integer .int32 IntegerKind.int32.sentinel

theorem least_ne_null : least ≠ .null := by
  rw [least]
  exact nofun

/-- The number is bound, and recorded as NULL. -/
theorem bind_least : ∃ prepared start changed final stored,
    leastPrepared = (.ok prepared, start) ∧
      prepared.bind 1 least start = ((.ok (), changed), final) ∧
      final.statement? (some changed.handle) = some stored ∧
      stored.bound = [some .null] := by
  have shown : leastPrepared.1.toOption.map (fun prepared =>
      let bound := prepared.bind 1 least leastPrepared.2
      (bound.1.1, (bound.2.statement? (some bound.1.2.handle)).map (·.bound))) =
      some (.ok (), some [some .null]) := by
    decide +kernel
  obtain ⟨prepared, answered, known⟩ := Option.map_eq_some_iff.1 shown
  obtain ⟨bound, kept⟩ := Prod.mk.inj known
  obtain ⟨stored, kept, null⟩ := Option.map_eq_some_iff.1 kept
  exact ⟨prepared, _, _, _, stored, Call.eq_of_toOption answered,
    Prod.ext (Prod.ext bound rfl) rfl, kept, null⟩

/-- The least number of 32 bits is bound to a parameter of this type, and NULL is recorded. -/
theorem recorded_least_eq_null : ∃ prepared start changed final,
    leastOpened.prepare "DELETE FROM t WHERE a = ?" (Engine.after leastStored) =
      (.ok prepared, start) ∧ least ≠ .null ∧
    prepared.bind 1 least start = ((.ok (), changed), final) ∧
    ∃ stored type recorded, final.statement? (some changed.handle) = some stored ∧
      stored.parameters[0]? = some type ∧ stored.bound[0]? = some (some recorded) ∧
      (recorded = .null ↔ type.Reserves least) := by
  obtain ⟨prepared, start, changed, final, _, accepted, bound, _, _⟩ := bind_least
  exact ⟨prepared, start, changed, final, accepted, least_ne_null, bound,
    recorded_eq_null_iff (Connection.inProcess_toFirst _) (fun _ => layout_leastOpened) accepted
      .start least_ne_null bound⟩

/-- A value that is not NULL can be bound and is recorded as NULL. -/
theorem exists_recorded_null : ¬ ∀ (connection : Connection Engine) (text : String)
    (engine start final : Engine) (prepared changed : PreparedStatement Engine) (index : Nat)
    (value : Value), engine.Reachable → connection.InProcess →
    (∀ database, engine.database? (some connection.handle) = some database →
      database.layout = connection.api.layout) →
    connection.prepare text engine = (.ok prepared, start) → value ≠ .null →
    prepared.bind index value start = ((.ok (), changed), final) →
    ∀ stored recorded, final.statement? (some changed.handle) = some stored →
      stored.bound[index - 1]? = some (some recorded) → recorded ≠ .null := by
  intro claimed
  obtain ⟨prepared, start, changed, final, stored, accepted, bound, kept, null⟩ := bind_least
  have recorded : stored.bound[1 - 1]? = some (some .null) := by
    rw [null]
    rfl
  exact claimed leastOpened _ _ start final prepared changed 1 least ⟨leastStored, rfl⟩ rfl
    (fun _ => layout_leastOpened) accepted least_ne_null bound stored .null kept recorded rfl

end PreparedStatement

end ColumnStore
