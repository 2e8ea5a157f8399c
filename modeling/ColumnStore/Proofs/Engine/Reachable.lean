import ColumnStore.Engine.EntryPoints
import ColumnStore.Proofs.Engine.Table
import ColumnStore.Proofs.Text.Utf8
import Mathlib.Data.List.Induction

/-!
# Reachable engines

An engine changes by requests alone: a call of one of its entry points, or the writing of
cells into a column that it handed out (`Request`). The arguments of a request are
arbitrary, so it can fail. What holds of an engine without objects and is kept by every
request holds of every reachable engine (`reachable_induction`), and the well-formedness of
all tables is such a property: a statement is read from a terminated text, and what is bound
to its parameters is well-formed as well, even when its table was dropped in the meantime and
made again with other types.

Main results: `wellFormed_perform` and `wellFormed_of_reachable`.
-/

set_option autoImplicit false

namespace ColumnStore

namespace Registry

variable {α : Type} {registry : Registry α} {property : α → Prop}

/-- Every object has the property. -/
def All (property : α → Prop) (registry : Registry α) : Prop :=
  ∀ number object, registry.find? number = some object → property object

theorem all_empty : All property empty := by
  intro number object found
  rw [find?_empty] at found
  cases found

theorem All.add (all : registry.All property) {object : α} (new : property object) :
    (registry.add object).All property := by
  intro number other found
  by_cases next : number = registry.nextNumber
  · rw [next, find?_add_next] at found
    cases found
    exact new
  · rw [find?_add_of_ne _ _ next] at found
    exact all number other found

theorem All.modify (all : registry.All property) {number : Nat} {change : α → α}
    (kept : ∀ object, property object → property (change object)) :
    (registry.modify number change).All property := by
  intro other object found
  rw [find?_modify] at found
  split at found
  · obtain ⟨before, known, rfl⟩ := Option.map_eq_some_iff.1 found
    exact kept before (all other before known)
  · exact all other object found

theorem All.remove (all : registry.All property) (number : Nat) :
    (registry.remove number).All property := by
  intro other object found
  rw [find?_remove] at found
  split at found
  · cases found
  · exact all other object found

end Registry

/-! ## Following handles -/

namespace Engine

section Follow

variable {α : Type} {resource : Resource} {registry : Registry α} {handle : Handle resource}
  {object : α}

theorem follow_eq_some : follow registry handle = some object ↔
    handle.keeper = .engine ∧ registry.find? handle.number = some object := by
  obtain ⟨keeper, number⟩ := handle
  cases keeper <;> simp [follow]

/-- A handle that leads to an object was given out. -/
theorem number_lt_of_follow (kept : follow registry handle = some object) :
    handle.number < registry.nextNumber := by
  obtain ⟨_, found⟩ := follow_eq_some.1 kept
  by_contra outside
  rw [Registry.find?, List.getElem?_eq_none (Nat.le_of_not_lt outside)] at found
  cases found

/-- The next number is that of no handle that leads to an object. -/
theorem ne_number_of_follow (kept : follow registry handle = some object) {number : Nat}
    (fresh : number = registry.nextNumber) : number ≠ handle.number :=
  fresh ▸ (Nat.ne_of_lt (number_lt_of_follow kept)).symm

/-- Two handles that lead somewhere are the same if their numbers are. -/
theorem handle_eq_of_follow (kept : follow registry handle = some object)
    {other : Handle resource} {second : α} (known : follow registry other = some second)
    (same : handle.number = other.number) : handle = other := by
  obtain ⟨keeper, number⟩ := handle
  obtain ⟨holder, _⟩ := other
  cases (follow_eq_some.1 kept).1.trans (follow_eq_some.1 known).1.symm
  cases same
  rfl

theorem follow_add (kept : follow registry handle = some object) (other : α) :
    follow (registry.add other) handle = some object := by
  obtain ⟨keeper, found⟩ := follow_eq_some.1 kept
  have old : handle.number ≠ registry.nextNumber := Nat.ne_of_lt (number_lt_of_follow kept)
  exact follow_eq_some.2 ⟨keeper, (Registry.find?_add_of_ne _ _ old).trans found⟩

theorem follow_remove (kept : follow registry handle = some object) {number : Nat}
    (apart : number ≠ handle.number) : follow (registry.remove number) handle = some object := by
  obtain ⟨keeper, found⟩ := follow_eq_some.1 kept
  refine follow_eq_some.2 ⟨keeper, ?_⟩
  rw [Registry.find?_remove, if_neg apart, found]

theorem follow_modify_of_ne (kept : follow registry handle = some object) {number : Nat}
    (apart : number ≠ handle.number) (change : α → α) :
    follow (registry.modify number change) handle = some object := by
  obtain ⟨keeper, found⟩ := follow_eq_some.1 kept
  refine follow_eq_some.2 ⟨keeper, ?_⟩
  rw [Registry.find?_modify, if_neg apart, found]

theorem follow_modify (kept : follow registry handle = some object) (change : α → α) :
    follow (registry.modify handle.number change) handle = some (change object) := by
  obtain ⟨keeper, found⟩ := follow_eq_some.1 kept
  refine follow_eq_some.2 ⟨keeper, ?_⟩
  rw [Registry.find?_modify, if_pos rfl, found, Option.map_some]

end Follow

end Engine

/-- The literals of a prepared statement and the values bound to it are well-formed. -/
structure StoredStatement.WellFormed (stored : StoredStatement) : Prop where
  literals : stored.statement.WellFormed
  bound : ∀ value, some value ∈ stored.bound → value.WellFormed

/-- A datum is bound as the value that it is read as, and nothing else of the statement changes. -/
theorem StoredStatement.bind_eq_ok {stored bound : StoredStatement} {datum : Option NativeDatum}
    {index : Nat} (accepted : stored.bind datum index = .ok bound) :
    ∃ given type recorded, datum = some given ∧ stored.parameters[index]? = some type ∧
      read type given = .ok recorded ∧
        bound = { stored with bound := stored.bound.set index (some recorded) } := by
  unfold bind at accepted
  split at accepted
  · cases accepted
  · cases accepted
  · next type given found =>
      obtain ⟨recorded, whole, same⟩ := Except.bind_eq_ok.1 accepted
      cases same
      exact ⟨given, type, recorded, rfl, found, whole, rfl⟩

namespace Engine

/-! ## Requests -/

/-- A call of an entry point, or the writing of cells. -/
inductive Request
  | openDatabase (layout : TagLayout) (place : Bool) (url : Option NativeText)
      (options : Option NativeOptions)
  | closeDatabase (given : Option (Handle .database))
  | lastError (given : Option (Handle .database))
  | getAutocommit (given : Option (Handle .database)) (place : Bool)
  | setAutocommit (given : Option (Handle .database)) (value : Int32)
  | query (given : Option (Handle .database)) (text : Option NativeText) (wanted : Bool)
  | resultFetch (given : Option (Handle .result)) (place : Bool) (index : Nat)
  | writeCells (column : LiveColumn) (cells : ColumnCells)
  | cleanupResult (given : Option (Handle .database)) (result : Option (Handle .result))
  | prepare (given : Option (Handle .database)) (text : Option NativeText) (place : Bool)
      (wanted : Bool)
  | bind (given : Option (Handle .statement)) (datum : Option NativeDatum) (index : Nat)
  | execute (given : Option (Handle .statement)) (wanted : Bool)
  | cleanupStatement (given : Option (Handle .database)) (statement : Option (Handle .statement))
  | nullValue (given : Option (Handle .database)) (tag : Int32)

/-- The engine after a request, whether it succeeds or fails. -/
def Request.perform (request : Request) (engine : Engine) : Engine :=
  match request with
  | openDatabase layout place url options => (Engine.openDatabase layout place url options engine).2
  | closeDatabase given => (Engine.closeDatabase given engine).2
  | lastError given => (Engine.lastError given engine).2
  | getAutocommit given place => (Engine.getAutocommit given place engine).2
  | setAutocommit given value => (Engine.setAutocommit given value engine).2
  | query given text wanted => (Engine.query given text wanted engine).2
  | resultFetch given place index => (Engine.resultFetch given place index engine).2
  | writeCells column cells => (Engine.writeCells column cells engine).2
  | cleanupResult given result => (Engine.cleanupResult given result engine).2
  | prepare given text place wanted => (Engine.prepare given text place wanted engine).2
  | bind given datum index => (Engine.bind given datum index engine).2
  | execute given wanted => (Engine.execute given wanted engine).2
  | cleanupStatement given statement => (Engine.cleanupStatement given statement engine).2
  | nullValue given tag => (Engine.nullValue given tag engine).2

/-- The engine after some requests, from the one without objects. -/
def after (requests : List Request) : Engine :=
  requests.foldl (fun engine request => request.perform engine) empty

/-- What requests make of the engine without objects. -/
def Reachable (engine : Engine) : Prop :=
  ∃ requests, engine = after requests

theorem reachable_empty : Reachable empty :=
  ⟨[], rfl⟩

theorem Reachable.perform {engine : Engine} (reachable : Reachable engine) (request : Request) :
    Reachable (request.perform engine) := by
  obtain ⟨requests, rfl⟩ := reachable
  exact ⟨requests ++ [request], by simp [after]⟩

/-- What requests keep holds of every reachable engine. -/
theorem reachable_induction {property : Engine → Prop} (start : property empty)
    (step : ∀ engine, property engine → ∀ request : Request, property (request.perform engine))
    {engine : Engine} (reachable : Reachable engine) : property engine := by
  obtain ⟨requests, rfl⟩ := reachable
  induction requests using List.reverseRecOn with
  | nil => exact start
  | append_singleton earlier last ih =>
      rw [after, List.foldl_append]
      exact step _ ih last

/-! ## Well-formed engines -/

/-- All tables and all prepared statements are well-formed. -/
structure WellFormed (engine : Engine) : Prop where
  databases : engine.databases.All Database.WellFormed
  statements : engine.statements.All StoredStatement.WellFormed

theorem wellFormed_empty : empty.WellFormed :=
  ⟨Registry.all_empty, Registry.all_empty⟩

section Steps

variable {engine : Engine} {database : Database} {stored : StoredStatement}

theorem WellFormed.onDatabase (formed : engine.WellFormed) {given : Option (Handle .database)}
    (found : engine.database? given = some database) : database.WellFormed := by
  obtain ⟨handle, _, followed⟩ := Option.bind_eq_some_iff.1 found
  unfold follow at followed
  split at followed
  · exact formed.databases _ _ followed
  · cases followed

theorem WellFormed.onStatement (formed : engine.WellFormed) {given : Option (Handle .statement)}
    (found : engine.statement? given = some stored) : stored.WellFormed := by
  obtain ⟨handle, _, followed⟩ := Option.bind_eq_some_iff.1 found
  unfold follow at followed
  split at followed
  · exact formed.statements _ _ followed
  · cases followed

theorem WellFormed.setDatabase (formed : engine.WellFormed) (handle : Handle .database)
    (changed : database.WellFormed) : (engine.setDatabase handle database).WellFormed :=
  ⟨formed.databases.modify fun _ _ => changed, formed.statements⟩

theorem WellFormed.setStatement (formed : engine.WellFormed) (handle : Handle .statement)
    (changed : stored.WellFormed) : (engine.setStatement handle stored).WellFormed :=
  ⟨formed.databases, formed.statements.modify fun _ _ => changed⟩

theorem WellFormed.addDatabase (formed : engine.WellFormed) (new : database.WellFormed) :
    (engine.addDatabase database).2.WellFormed :=
  ⟨formed.databases.add new, formed.statements⟩

theorem WellFormed.addStatement (formed : engine.WellFormed) (new : stored.WellFormed)
    (tags : List Int32) : (engine.addStatement stored tags).2.WellFormed :=
  ⟨formed.databases, formed.statements.add new⟩

/-- Recording a failure leaves the tables alone. -/
theorem WellFormed.fail (formed : engine.WellFormed) (handle : Handle .database)
    (known : database.WellFormed) (failure : Failure) :
    (engine.fail handle database failure).2.WellFormed :=
  formed.setDatabase handle known

theorem WellFormed.addResult (formed : engine.WellFormed) (result : NativeResult) :
    (engine.addResult result).2.WellFormed :=
  ⟨formed.databases, formed.statements⟩

end Steps

/-! ## Entry points -/

section EntryPoints

variable {α : Type} {engine : Engine} {database : Database}

/-- A call on a database leaves the engine as it is, or goes on with the database found. -/
theorem onDatabase_property (property : Engine → Prop) {given : Option (Handle .database)}
    {go : Handle .database → Database → StateM Engine (Reply α)} (same : property engine)
    (each : ∀ handle database, engine.database? (some handle) = some database →
      property (go handle database engine).2) :
    property (onDatabase given go engine).2 := by
  unfold onDatabase
  split
  · next found => exact each _ _ found
  · exact same

theorem onStatement_property (property : Engine → Prop) {given : Option (Handle .statement)}
    {go : Handle .statement → StoredStatement → Database → StateM Engine (Reply α)}
    (same : property engine)
    (each : ∀ handle stored database, engine.statement? (some handle) = some stored →
      engine.database? (some stored.database) = some database →
      property (go handle stored database engine).2) :
    property (onStatement given go engine).2 := by
  unfold onStatement
  split
  · next known =>
      split
      · next found => exact each _ _ _ known found
      · exact same
  · exact same

theorem wellFormed_onDatabase {given : Option (Handle .database)}
    {go : Handle .database → Database → StateM Engine (Reply α)} (formed : engine.WellFormed)
    (each : ∀ handle database, database.WellFormed → (go handle database engine).2.WellFormed) :
    (onDatabase given go engine).2.WellFormed :=
  onDatabase_property WellFormed formed fun handle database found =>
    each handle database (formed.onDatabase found)

theorem wellFormed_onStatement {given : Option (Handle .statement)}
    {go : Handle .statement → StoredStatement → Database → StateM Engine (Reply α)}
    (formed : engine.WellFormed)
    (each : ∀ handle stored database, stored.WellFormed → database.WellFormed →
      (go handle stored database engine).2.WellFormed) :
    (onStatement given go engine).2.WellFormed :=
  onStatement_property WellFormed formed fun handle stored database known found =>
    each handle stored database (formed.onStatement known) (formed.onDatabase found)

theorem wellFormed_refuse (formed : engine.WellFormed) (handle : Handle .database)
    (known : database.WellFormed) (failure : Failure) :
    (refuse (α := α) handle database failure engine).2.WellFormed :=
  formed.fail handle known failure

theorem wellFormed_handOut (formed : engine.WellFormed) (effect : Effect) (wanted : Bool) :
    (handOut effect wanted engine).2.WellFormed := by
  unfold handOut
  cases effect <;> cases wanted <;> first | exact formed | exact formed.addResult _

theorem wellFormed_run {attempt : Except Failure (Database × Effect)} (formed : engine.WellFormed)
    (handle : Handle .database) (known : database.WellFormed) (wanted : Bool)
    (kept : ∀ changed effect, attempt = .ok (changed, effect) → changed.WellFormed) :
    (run handle database wanted attempt engine).2.WellFormed := by
  cases attempt with
  | ok answer =>
      exact wellFormed_handOut (formed.setDatabase handle (kept _ _ rfl)) _ _
  | error failure => exact wellFormed_refuse formed handle known failure

theorem wellFormed_openDatabase (formed : engine.WellFormed) (layout : TagLayout) (place : Bool)
    (url : Option NativeText) (options : Option NativeOptions) :
    (openDatabase layout place url options engine).2.WellFormed := by
  have new := Database.wellFormed_new layout
  unfold openDatabase
  split
  · exact formed
  · dsimp only
    split
    · exact formed.addDatabase new
    · exact formed.addDatabase new

/-- A statement that a terminated text spells keeps the tables well-formed. -/
theorem wellFormed_query (formed : engine.WellFormed) (given : Option (Handle .database))
    (text : Option NativeText) (wanted : Bool) : (query given text wanted engine).2.WellFormed := by
  apply wellFormed_onDatabase formed
  intro handle database known
  cases text with
  | none => exact wellFormed_refuse formed handle known _
  | some text =>
      apply wellFormed_run formed handle known wanted
      intro changed effect executed
      obtain ⟨statement, read, executed⟩ := Except.bind_eq_ok.1 executed
      exact Database.wellFormed_execute known
        (Statement.wellFormed_of_parse text.nulFree_toString read) (by simp) executed

theorem wellFormed_resultFetch (formed : engine.WellFormed) (given : Option (Handle .result))
    (place : Bool) (index : Nat) : (resultFetch given place index engine).2.WellFormed := by
  unfold resultFetch
  split
  · dsimp only
    split
    · exact formed
    · split
      · exact ⟨formed.databases, formed.statements⟩
      · exact formed
  · exact formed

theorem wellFormed_cleanupResult (formed : engine.WellFormed) (given : Option (Handle .database))
    (result : Option (Handle .result)) : (cleanupResult given result engine).2.WellFormed := by
  apply wellFormed_onDatabase formed
  intro handle database known
  cases result with
  | none => exact wellFormed_refuse formed handle known _
  | some result => exact ⟨formed.databases, formed.statements⟩

/-! ## Prepared statements -/

theorem wellFormed_prepared {handle : Handle .database} {statement : Statement}
    {preparation : Preparation} (literals : statement.WellFormed)
    (prepared : database.prepare handle statement = .ok preparation) :
    preparation.stored.WellFormed := by
  obtain ⟨parameters, _, prepared⟩ := Except.bind_eq_ok.1 prepared
  obtain ⟨⟨table, outputs⟩, _, prepared⟩ := Except.bind_eq_ok.1 prepared
  obtain ⟨description, _, prepared⟩ := Except.bind_eq_ok.1 prepared
  obtain ⟨tags, _, whole⟩ := Except.bind_eq_ok.1 prepared
  cases whole
  exact ⟨literals, by simp⟩

theorem wellFormed_prepare (formed : engine.WellFormed) (given : Option (Handle .database))
    (text : Option NativeText) (place wanted : Bool) :
    (prepare given text place wanted engine).2.WellFormed := by
  apply wellFormed_onDatabase formed
  intro handle database known
  split
  · exact wellFormed_refuse formed handle known _
  · cases text with
    | none => exact wellFormed_refuse formed handle known _
    | some text =>
        dsimp only
        cases attempted : (do database.prepare handle (← Statement.parse text.toString)) with
        | error failure => exact wellFormed_refuse formed handle known _
        | ok preparation =>
            obtain ⟨statement, read, prepared⟩ := Except.bind_eq_ok.1 attempted
            have literals := Statement.wellFormed_of_parse text.nulFree_toString read
            have added := formed.addStatement (wellFormed_prepared literals prepared)
              preparation.tags
            cases wanted with
            | true => exact added.addResult _
            | false => exact added

theorem wellFormed_orNull {content : Option α} {value : α → Value}
    (each : ∀ found, (value found).WellFormed) :
    (StoredStatement.orNull value content).WellFormed := by
  cases content with
  | none => trivial
  | some found => exact each found

/-- A fixed-width datum that is not NULL is read as a number. -/
theorem wellFormed_readFixed (type : DeclaredType) {kind : FixedKind} {cell : kind.Cell}
    (present : kind.isSentinel cell = false) :
    (StoredStatement.readFixed type kind cell).WellFormed := by
  have integer (n : Int) : (StoredStatement.readInteger type n).WellFormed := by
    unfold StoredStatement.readInteger
    split <;> trivial
  cases kind with
  | bool => trivial
  | float => exact present
  | double => exact present
  | integer kind =>
      cases kind with
      | size => trivial
      | _ => exact integer cell.val

/-- A bound datum is read as a well-formed value. -/
theorem wellFormed_read {type : DeclaredType} {datum : NativeDatum} {value : Value}
    (read : StoredStatement.read type datum = .ok value) : value.WellFormed := by
  unfold StoredStatement.read at read
  split at read
  · split at read
    · cases read
    · split at read
      · cases read
        trivial
      · next present =>
          cases read
          exact wellFormed_readFixed type (eq_false_of_ne_true present)
  · next text _ =>
      cases read
      split
      · trivial
      · exact text.nulFree_toString
  · cases read
    trivial
  · cases read
    trivial
  · obtain ⟨content, _, whole⟩ := Except.bind_eq_ok.1 read
    cases whole
    exact wellFormed_orNull fun _ => trivial
  · obtain ⟨content, _, whole⟩ := Except.bind_eq_ok.1 read
    cases whole
    exact wellFormed_orNull fun _ => trivial
  · obtain ⟨content, _, whole⟩ := Except.bind_eq_ok.1 read
    cases whole
    exact wellFormed_orNull fun _ => trivial
  · cases read

theorem wellFormed_bound {stored bound : StoredStatement} {datum : Option NativeDatum}
    {index : Nat} (known : stored.WellFormed) (accepted : stored.bind datum index = .ok bound) :
    bound.WellFormed := by
  obtain ⟨given, type, recorded, -, -, read, rfl⟩ := StoredStatement.bind_eq_ok accepted
  refine ⟨known.literals, fun other member => ?_⟩
  rcases List.mem_or_eq_of_mem_set member with old | new
  · exact known.bound other old
  · cases new
    exact wellFormed_read read

theorem wellFormed_values {stored : StoredStatement} {values : List Value}
    (known : stored.WellFormed) (complete : stored.values = .ok values) :
    ∀ value ∈ values, value.WellFormed := by
  intro value member
  obtain ⟨⟨bound, index⟩, inside, found⟩ := Except.exists_of_mem_mapM complete member
  split at found
  · next content same =>
      cases found
      exact known.bound _ (same ▸ List.mem_of_getElem? (List.mem_zipIdx_iff_getElem?.1 inside))
  · cases found

theorem wellFormed_bind (formed : engine.WellFormed) (given : Option (Handle .statement))
    (datum : Option NativeDatum) (index : Nat) : (bind given datum index engine).2.WellFormed := by
  apply wellFormed_onStatement formed
  intro handle stored database known found
  cases accepted : stored.bind datum index with
  | ok bound => exact formed.setStatement handle (wellFormed_bound known accepted)
  | error failure => exact wellFormed_refuse formed _ found _

theorem wellFormed_execute (formed : engine.WellFormed) (given : Option (Handle .statement))
    (wanted : Bool) : (execute given wanted engine).2.WellFormed := by
  apply wellFormed_onStatement formed
  intro handle stored database known found
  apply wellFormed_run formed _ found wanted
  intro changed effect executed
  obtain ⟨values, bound, executed⟩ := Except.bind_eq_ok.1 executed
  exact Database.wellFormed_execute found known.literals (wellFormed_values known bound) executed

theorem wellFormed_cleanupStatement (formed : engine.WellFormed)
    (given : Option (Handle .database)) (statement : Option (Handle .statement)) :
    (cleanupStatement given statement engine).2.WellFormed := by
  apply wellFormed_onDatabase formed
  intro handle database known
  cases statement with
  | none => exact wellFormed_refuse formed handle known _
  | some statement => exact ⟨formed.databases, formed.statements.remove _⟩

end EntryPoints

/-! ## Reachable engines are well-formed -/

/-- A request keeps all tables well-formed, whether it succeeds or fails. -/
theorem wellFormed_perform {engine : Engine} (formed : engine.WellFormed) (request : Request) :
    (request.perform engine).WellFormed := by
  cases request with
  | openDatabase layout place url options => exact wellFormed_openDatabase formed _ _ _ _
  | closeDatabase given =>
      cases given with
      | none => exact formed
      | some handle => exact ⟨formed.databases.remove _, formed.statements⟩
  | lastError given =>
      simp only [Request.perform, lastError]
      split <;> exact formed
  | getAutocommit given place =>
      apply wellFormed_onDatabase formed
      intro handle database known
      split
      · exact wellFormed_refuse formed handle known _
      · exact formed
  | setAutocommit given value =>
      exact wellFormed_onDatabase formed fun handle database known =>
        formed.setDatabase handle known
  | query given text wanted => exact wellFormed_query formed _ _ _
  | resultFetch given place index => exact wellFormed_resultFetch formed _ _ _
  | writeCells column cells => exact ⟨formed.databases, formed.statements⟩
  | cleanupResult given result => exact wellFormed_cleanupResult formed _ _
  | prepare given text place wanted => exact wellFormed_prepare formed _ _ _ _
  | bind given datum index => exact wellFormed_bind formed _ _ _
  | execute given wanted => exact wellFormed_execute formed _ _
  | cleanupStatement given statement => exact wellFormed_cleanupStatement formed _ _
  | nullValue given tag => exact formed

/-- **Every reachable engine is well-formed.** -/
theorem wellFormed_of_reachable {engine : Engine} (reachable : Reachable engine) :
    engine.WellFormed :=
  reachable_induction wellFormed_empty (fun _ formed request => wellFormed_perform formed request)
    reachable

/-- **Every table of a reachable engine is well-formed**: it has columns of distinct names and
of types that the layout carries, and its rows hold what the columns store. -/
theorem tables_of_reachable {engine : Engine} (reachable : Reachable engine) {number : Nat}
    {database : Database} (kept : engine.databases.find? number = some database) :
    ∀ table ∈ database.catalog.tables, table.WellFormed database.layout :=
  (wellFormed_of_reachable reachable).databases number database kept

/-- The request to run a statement on the database opened first. -/
def Request.sql (text : String) : Request :=
  .query (some ⟨.engine, 0⟩) (NativeText.ofString? text) true

/-- A table is made and filled; the last statement fails. -/
def Request.filling : List Request :=
  [.openDatabase ⟨false⟩ true none none, .sql "CREATE TABLE t (a DECIMAL(5, 2), b TEXT)",
    .sql "INSERT INTO t VALUES (1.259, 7)", .sql "UPDATE t SET a = 1000"]

/-- The decimal is cut to the scale of its column, and the number stored as its text. -/
theorem tables_of_filling :
    (after Request.filling).databases.find? 0 ≠ none ∧
      Table.WellFormed ⟨false⟩
        ⟨"t", [⟨"a", .decimal 5 2 (by decide)⟩, ⟨"b", .varchar 0⟩],
          [[.decimal ⟨125, 2⟩, .str "7"]]⟩ := by
  have catalog : ((after Request.filling).databases.find? 0).map (·.catalog.tables) =
      some [⟨"t", [⟨"a", .decimal 5 2 (by decide)⟩, ⟨"b", .varchar 0⟩],
        [[.decimal ⟨125, 2⟩, .str "7"]]⟩] := by decide +kernel
  have layout : ((after Request.filling).databases.find? 0).map (·.layout) = some ⟨false⟩ := by
    decide +kernel
  obtain ⟨database, kept, tables⟩ := Option.map_eq_some_iff.1 catalog
  rw [kept, Option.map_some, Option.some.injEq] at layout
  refine ⟨by simp [kept], ?_⟩
  have formed := tables_of_reachable ⟨Request.filling, rfl⟩ kept
  rw [tables, layout] at formed
  exact formed _ List.mem_cons_self

end Engine

end ColumnStore
