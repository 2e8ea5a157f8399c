import ColumnStore.Proofs.Column.Materialize
import ColumnStore.Proofs.Engine.Changes

/-!
# Results of queries

A query that succeeds leaves the tables alone and lays out the rows that match, a descriptor
for each column of its projection (`Database.selected_of_execute`). The engine keeps such a
result under a number of its own: only a request to release it or to write its cells can
change it, whatever other statements do to the tables it came from (`result?_perform`).
-/

set_option autoImplicit false

namespace ColumnStore

/-! ## Laying out rows -/

/-- A cell of a row of computed cells. -/
theorem Table.cell_map {α : Type} {list : List α} {index : Nat} {element : α}
    (found : list[index]? = some element) (content : α → Value) :
    cell (list.map content) index = content element := by
  rw [cell, List.getElem?_map, found]
  rfl

namespace NativeResult

variable {layout : TagLayout} {name : String} {columns : List OutputColumn} {rows : List Row}
  {result : NativeResult}

/-- A result reports its columns and rows, and each column is laid out on its own. -/
theorem ofRows_eq_ok (laid : ofRows layout name columns rows = .ok result) :
    result.header.columnCount = columns.length ∧ result.header.rowCount = rows.length ∧
      List.Forall₂ (fun entry descriptor =>
        entry.1.descriptor layout (rows.map fun row => Table.cell row entry.2) = .ok descriptor)
        columns.zipIdx result.columns := by
  obtain ⟨label, _, laid⟩ := Except.bind_eq_ok.1 laid
  obtain ⟨descriptors, each, whole⟩ := Except.bind_eq_ok.1 laid
  cases whole
  have pairs := Except.mapM_eq_ok.1 each
  exact ⟨by simpa using pairs.length_eq.symm, rfl, pairs⟩

theorem columns_length (laid : ofRows layout name columns rows = .ok result) :
    result.columns.length = columns.length := by
  have pairs := (ofRows_eq_ok laid).2.2
  simpa using pairs.length_eq.symm

theorem descriptor_of_ofRows (laid : ofRows layout name columns rows = .ok result) {index : Nat}
    {column : OutputColumn} {descriptor : Descriptor} (named : columns[index]? = some column)
    (found : result.columns[index]? = some descriptor) :
    column.descriptor layout (rows.map fun row => Table.cell row index) = .ok descriptor := by
  have pairs := (ofRows_eq_ok laid).2.2
  have entry : columns.zipIdx[index]? = some (column, index) := by
    rw [List.getElem?_zipIdx, named, Option.map_some, Nat.zero_add]
  obtain ⟨inside, entry⟩ := List.getElem?_eq_some_iff.1 entry
  obtain ⟨there, found⟩ := List.getElem?_eq_some_iff.1 found
  have both := pairs.get inside there
  rw [List.get_eq_getElem, List.get_eq_getElem, entry, found] at both
  exact both

end NativeResult

/-! ## Queries -/

/-- What a query finds: its table, the columns of its projection and the test for its rows. -/
structure Database.Selects (database : Database) (name : String)
    (projection : Option (List String)) (filter : Option Filter) (parameters : List Value)
    (table : Table) (targets : List Table.Target) (test : Row → Bool) : Prop where
  table_eq : database.catalog.table name = .ok table
  targets_eq : table.targets projection = .ok targets
  test_eq : table.test filter parameters = .ok test

/-- The cells of the matching rows at a position, in the order of the table. -/
def Table.matching (table : Table) (test : Row → Bool) (position : Nat) : List Value :=
  (table.rows.filter test).map fun row => cell row position

/-- The result has the columns of the projection, each laid out with its matching cells. -/
structure NativeResult.LaidOut (layout : TagLayout) (table : Table) (targets : List Table.Target)
    (test : Row → Bool) (native : NativeResult) : Prop where
  columnCount_eq : native.header.columnCount = targets.length
  rowCount_eq : native.header.rowCount = (table.rows.filter test).length
  length_eq : native.columns.length = targets.length
  descriptor_eq : ∀ (index : Nat) (target : Table.Target) (descriptor : Descriptor),
    targets[index]? = some target → native.columns[index]? = some descriptor →
    target.column.output.descriptor layout (table.matching test target.position) = .ok descriptor

namespace Database

variable {database changed : Database} {name : String} {projection : Option (List String)}
  {filter : Option Filter} {parameters : List Value} {native : NativeResult}

/-- A query that is accepted changes nothing. -/
theorem selected_of_execute {effect : Effect}
    (executed : database.execute (.select name projection filter) parameters =
      .ok (changed, effect)) :
    changed = database ∧ ∃ native, effect = .rows native ∧ ∃ table targets test,
      database.Selects name projection filter parameters table targets test ∧
        native.LaidOut database.layout table targets test := by
  cases execute_eq_ok.1 executed with
  | @select _ _ _ table targets rows native found selected laid =>
      rw [Table.select_eq] at selected
      obtain ⟨aimed, named, selected⟩ := Except.bind_eq_ok.1 selected
      obtain ⟨test, tested, whole⟩ := Except.bind_eq_ok.1 selected
      cases whole
      have selects : database.Selects name projection filter parameters table targets test :=
        ⟨Catalog.table_eq_ok.2 found, named, tested⟩
      refine ⟨rfl, native, rfl, table, targets, test, selects, ?_⟩
      obtain ⟨columnCount, rowCount, _⟩ := NativeResult.ofRows_eq_ok laid
      refine ⟨by simpa using columnCount, by simpa using rowCount, ?_, ?_⟩
      · simpa using NativeResult.columns_length laid
      · intro index target descriptor aimed handed
        have output : (targets.map fun target => target.column.output)[index]? =
            some target.column.output := by
          rw [List.getElem?_map, aimed, Option.map_some]
        have laid := NativeResult.descriptor_of_ofRows laid output handed
        rw [List.map_map] at laid
        rw [← laid, Table.matching]
        congr 1
        apply List.map_congr_left
        intro row _
        exact (Table.cell_map aimed fun target => Table.cell row target.position).symm

/-- The matching cells are what the columns of the projection store. -/
theorem Selects.stores {table : Table} {targets : List Table.Target} {test : Row → Bool}
    (selects : database.Selects name projection filter parameters table targets test)
    (formed : database.WellFormed) {index : Nat} {target : Table.Target}
    (aimed : targets[index]? = some target) :
    ∀ value ∈ table.matching test target.position, target.column.type.Stores value := by
  intro value member
  obtain ⟨row, matched, rfl⟩ := List.mem_map.1 member
  have fits := (formed.find selects.table_eq).rows_fit row (List.mem_of_mem_filter matched)
  exact fits.cell (Table.targets_of selects.targets_eq target (List.mem_of_getElem? aimed))

end Database

/-! ## Results that are kept -/

namespace Engine

/-- The request neither releases the result behind a handle nor writes its cells. -/
def Request.Spares (handle : Handle .result) : Request → Prop
  | writeCells column _ => column.result.number ≠ handle.number
  | cleanupResult _ (some other) => other.number ≠ handle.number
  | _ => True

section Spares

variable {engine later : Engine} {handle : Handle .result} {native : NativeResult}

/-- A result that is handed out can be followed. -/
theorem result?_addResult_self (engine : Engine) (native : NativeResult) :
    (engine.addResult native).2.result? (some (engine.addResult native).1.handle) = some native :=
  Registry.find?_add_next _ _

/-- Handing out another result leaves the earlier ones. -/
theorem result?_addResult (kept : engine.result? (some handle) = some native)
    (other : NativeResult) : (engine.addResult other).2.result? (some handle) = some native :=
  follow_add kept other

theorem result?_removeResult (kept : engine.result? (some handle) = some native)
    {other : Handle .result} (apart : other.number ≠ handle.number) :
    (engine.removeResult other).result? (some handle) = some native :=
  follow_remove kept apart

theorem result?_modifyColumns_of_ne (kept : engine.result? (some handle) = some native)
    {other : Handle .result} (apart : other.number ≠ handle.number)
    (change : List Descriptor → List Descriptor) :
    (engine.modifyColumns other change).result? (some handle) = some native :=
  follow_modify_of_ne kept apart _

theorem result?_modifyColumns (kept : engine.result? (some handle) = some native)
    (change : List Descriptor → List Descriptor) :
    (engine.modifyColumns handle change).result? (some handle) =
      some { native with columns := change native.columns } :=
  follow_modify kept _

/-- What fetching answers when the result does not exist. -/
theorem resultFetch_of_lost {given : Option (Handle .result)} (lost : engine.result? given = none)
    (place : Bool) (index : Nat) :
    resultFetch given place index engine = (.error (invalid .result), engine) := by
  cases given <;> simp only [resultFetch, lost]

theorem resultFetch_of_column (kept : engine.result? (some handle) = some native) {index : Nat}
    {descriptor : Descriptor} (there : native.columns[index]? = some descriptor) :
    resultFetch (some handle) true index engine =
      (.ok (some ⟨handle, index, descriptor⟩), engine.countFetch) := by
  simp only [resultFetch, kept, there]
  rfl

theorem resultFetch_of_outside (kept : engine.result? (some handle) = some native) {index : Nat}
    (outside : native.columns.length ≤ index) :
    resultFetch (some handle) true index engine =
      (.error (NativeText.ofStringOrEmpty
        (Failure.noSuchColumn index native.columns.length).message), engine) := by
  simp only [resultFetch, kept, List.getElem?_eq_none outside]
  rfl

/-- **A request that spares a result leaves it as it is**, whatever it does to the tables. -/
theorem result?_perform (kept : engine.result? (some handle) = some native) {request : Request}
    (spares : request.Spares handle) :
    (request.perform engine).result? (some handle) = some native := by
  let Keeps (engine : Engine) : Prop := engine.result? (some handle) = some native
  refine perform_property Keeps (fun before after kept change => ?_) kept
  cases change with
  | addResult other => exact result?_addResult kept other
  | writeCells asked =>
      subst asked
      exact result?_modifyColumns_of_ne kept spares _
  | removeResult asked =>
      subst asked
      exact result?_removeResult kept spares
  | _ => exact kept

end Spares

end Engine

end ColumnStore
