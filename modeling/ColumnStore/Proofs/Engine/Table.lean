import ColumnStore.Proofs.Engine.Effects
import ColumnStore.Proofs.Sql.Coercion
import ColumnStore.Proofs.Sql.Parser

/-!
# Well-formed tables

What every table of the engine looks like: it has columns, their names are pairwise
distinct, the layout of the database can carry their types, and every row has for each
column one cell that the column stores. Each statement keeps this up, because a new row
starts with NULL in every column and a cell is only ever replaced by what its column's type
coerced (`Table.Fits.set`).

Main result: `Database.wellFormed_execute`.
-/

set_option autoImplicit false

namespace ColumnStore

/-! ## Well-formed tables -/

/-- A row has for each column one cell that the column stores. -/
def Table.Fits (columns : List ColumnDeclaration) (row : Row) : Prop :=
  List.Forall₂ (fun column value => column.type.Stores value) columns row

/-- A table as a database with the layout may hold it. -/
structure Table.WellFormed (layout : TagLayout) (table : Table) : Prop where
  named : NulFree table.name.toList
  columns_ne_nil : table.columns ≠ []
  columns_named : ∀ column ∈ table.columns, column.Named
  distinct : (table.columns.map (·.name)).Nodup
  /-- The layout has a tag for every column. -/
  carried : ∀ column ∈ table.columns, column.type.checkLayout layout = .ok ()
  rows_fit : ∀ row ∈ table.rows, Table.Fits table.columns row

/-- Every table of a database is well-formed. -/
def Database.WellFormed (database : Database) : Prop :=
  ∀ table ∈ database.catalog.tables, table.WellFormed database.layout

namespace Table

variable {columns : List ColumnDeclaration} {row : Row} {table : Table} {layout : TagLayout}

/-! ## Cells -/

/-- A cell is replaced by a value that its column stores. -/
theorem Fits.set (fits : Fits columns row) {position : Nat} {column : ColumnDeclaration}
    (found : columns[position]? = some column) {value : Value}
    (stored : column.type.Stores value) : Fits columns (row.set position value) := by
  induction fits generalizing position with
  | nil => cases found
  | cons first others ih =>
      cases position with
      | zero =>
          cases found
          exact .cons stored others
      | succ position => exact .cons first (ih found)

theorem Fits.cell (fits : Fits columns row) {position : Nat} {column : ColumnDeclaration}
    (found : columns[position]? = some column) : column.type.Stores (cell row position) := by
  induction fits generalizing position with
  | nil => cases found
  | cons first others ih =>
      cases position with
      | zero =>
          cases found
          exact first
      | succ position => exact ih found

theorem fits_nulls (columns : List ColumnDeclaration) :
    Fits columns (List.replicate columns.length .null) := by
  induction columns with
  | nil => exact .nil
  | cons column columns ih => exact .cons column.type.stores_null ih

/-- Values for columns of a table, each with the position of a column that stores it. -/
def Assigns (columns : List ColumnDeclaration) (values : List (Nat × Value)) : Prop :=
  ∀ entry ∈ values, ∃ column, columns[entry.1]? = some column ∧ column.type.Stores entry.2

theorem Fits.assign (fits : Fits columns row) {values : List (Nat × Value)}
    (assigns : Assigns columns values) : Fits columns (assign row values) := by
  induction values generalizing row with
  | nil => exact fits
  | cons entry values ih =>
      obtain ⟨column, found, stored⟩ := assigns entry List.mem_cons_self
      exact ih (fits.set found stored) fun other member =>
        assigns other (List.mem_cons_of_mem _ member)

/-! ## Targets -/

/-- A target names a column of a table and its position. -/
def Target.Of (columns : List ColumnDeclaration) (target : Target) : Prop :=
  columns[target.position]? = some target.column

theorem target_of {name : String} {target : Target} (found : table.target name = .ok target) :
    target.Of table.columns ∧ target.column.name = name := by
  unfold Table.target at found
  split at found
  · next declaration position first =>
      cases found
      have member := List.mem_of_find?_eq_some first
      have named := List.find?_some first
      exact ⟨List.mem_zipIdx_iff_getElem?.1 member, of_decide_eq_true named⟩
  · cases found

theorem targets_of {names : Option (List String)} {targets : List Target}
    (found : table.targets names = .ok targets) :
    ∀ target ∈ targets, target.Of table.columns := by
  cases names with
  | none =>
      cases found
      intro target member
      obtain ⟨⟨declaration, position⟩, inside, rfl⟩ := List.mem_map.1 member
      exact List.mem_zipIdx_iff_getElem?.1 inside
  | some names =>
      intro target member
      obtain ⟨name, _, one⟩ := Except.exists_of_mem_mapM found member
      exact (target_of one).1

/-! ## New cells -/

/-- What values a statement with well-formed literals can use. -/
theorem wellFormed_of_resolve {parameters : List Value} {expression : Expression}
    {value : Value} (bound : ∀ given ∈ parameters, given.WellFormed)
    (formed : expression.WellFormed) (resolved : expression.resolve parameters = .ok value) :
    value.WellFormed := by
  cases expression with
  | literal content =>
      cases resolved
      exact formed
  | placeholder index =>
      simp only [Expression.resolve] at resolved
      split at resolved
      · next found =>
          cases resolved
          exact bound _ (List.mem_of_getElem? found)
      · cases resolved

section Statements

variable {parameters : List Value}

theorem stores_of_targetCoerce {target : Target} {expression : Expression} {value : Value}
    (bound : ∀ given ∈ parameters, given.WellFormed) (formed : expression.WellFormed)
    (coerced : target.coerce parameters expression = .ok value) :
    target.column.type.Stores value := by
  obtain ⟨content, resolved, stored⟩ := Except.bind_eq_ok.1 coerced
  exact DeclaredType.stores_of_coerce (wellFormed_of_resolve bound formed resolved) stored

theorem assigns_coerceAll {pairs : List (Target × Expression)} {values : List (Nat × Value)}
    (bound : ∀ given ∈ parameters, given.WellFormed)
    (aimed : ∀ pair ∈ pairs, pair.1.Of columns) (formed : ∀ pair ∈ pairs, pair.2.WellFormed)
    (coerced : coerceAll parameters pairs = .ok values) : Assigns columns values := by
  intro entry member
  obtain ⟨pair, inside, one⟩ := Except.exists_of_mem_mapM coerced member
  obtain ⟨value, stored, whole⟩ := Except.bind_eq_ok.1 one
  cases whole
  exact ⟨pair.1.column, aimed pair inside, stores_of_targetCoerce bound (formed pair inside) stored⟩

theorem fits_newRow {targets : List Target} {expressions : List Expression}
    (bound : ∀ given ∈ parameters, given.WellFormed)
    (aimed : ∀ target ∈ targets, target.Of table.columns)
    (formed : ∀ expression ∈ expressions, expression.WellFormed)
    (made : table.newRow targets parameters expressions = .ok row) :
    Fits table.columns row := by
  unfold newRow at made
  split at made
  · cases made
  · obtain ⟨values, coerced, whole⟩ := Except.bind_eq_ok.1 made
    cases whole
    refine (fits_nulls _).assign (assigns_coerceAll bound ?_ ?_ coerced)
    · intro pair member
      exact aimed _ (List.of_mem_zip member).1
    · intro pair member
      exact formed _ (List.of_mem_zip member).2

/-! ## Statements on one table -/

/-- A table with other rows that fit is still well-formed. -/
theorem WellFormed.withRows (formed : table.WellFormed layout) {rows : List Row}
    (fit : ∀ row ∈ rows, Fits table.columns row) :
    ({ table with rows } : Table).WellFormed layout :=
  { formed with rows_fit := fit }

theorem WellFormed.insert {names : Option (List String)} {rows : List (List Expression)}
    {changed : Table} {count : Nat} (formed : table.WellFormed layout)
    (bound : ∀ given ∈ parameters, given.WellFormed)
    (literals : ∀ row ∈ rows, ∀ expression ∈ row, expression.WellFormed)
    (inserted : table.insert names rows parameters = .ok (changed, count)) :
    changed.WellFormed layout := by
  obtain ⟨targets, aimed, inserted⟩ := Except.bind_eq_ok.1 inserted
  obtain ⟨added, made, whole⟩ := Except.bind_eq_ok.1 inserted
  cases whole
  apply formed.withRows
  intro row member
  rcases List.mem_append.1 member with old | new
  · exact formed.rows_fit row old
  · obtain ⟨expressions, inside, one⟩ := Except.exists_of_mem_mapM made new
    exact fits_newRow bound (targets_of aimed) (literals expressions inside) one

theorem WellFormed.update {assignments : List Assignment} {filter : Option Filter}
    {changed : Table} {count : Nat} (formed : table.WellFormed layout)
    (bound : ∀ given ∈ parameters, given.WellFormed)
    (literals : ∀ assignment ∈ assignments, assignment.value.WellFormed)
    (updated : table.update assignments filter parameters = .ok (changed, count)) :
    changed.WellFormed layout := by
  rw [update_eq] at updated
  obtain ⟨values, coerced, updated⟩ := Except.bind_eq_ok.1 updated
  obtain ⟨test, _, whole⟩ := Except.bind_eq_ok.1 updated
  cases whole
  have assigns : Assigns table.columns values := by
    intro entry member
    obtain ⟨assignment, inside, one⟩ := Except.exists_of_mem_mapM coerced member
    obtain ⟨target, found, one⟩ := Except.bind_eq_ok.1 one
    obtain ⟨value, stored, whole⟩ := Except.bind_eq_ok.1 one
    cases whole
    exact ⟨target.column, (target_of found).1,
      stores_of_targetCoerce bound (literals assignment inside) stored⟩
  apply formed.withRows
  intro row member
  obtain ⟨old, inside, rfl⟩ := List.mem_map.1 member
  have fits := formed.rows_fit old inside
  split
  · exact fits.assign assigns
  · exact fits

theorem WellFormed.delete {filter : Option Filter} {changed : Table} {count : Nat}
    (formed : table.WellFormed layout)
    (deleted : table.delete filter parameters = .ok (changed, count)) :
    changed.WellFormed layout := by
  rw [delete_eq] at deleted
  obtain ⟨test, _, whole⟩ := Except.bind_eq_ok.1 deleted
  cases whole
  exact formed.withRows fun row member => formed.rows_fit row (List.mem_of_mem_filter member)

end Statements

end Table

/-! ## Statements on a database -/

namespace ColumnDeclaration

/-- Columns that pass the check can be carried, and none repeats a name. -/
theorem checked {layout : TagLayout} {earlier : List String} {columns : List ColumnDeclaration}
    (passed : checkAll layout earlier columns = .ok ()) :
    (∀ column ∈ columns, column.type.checkLayout layout = .ok ()) ∧
      (columns.map (·.name)).Nodup ∧ ∀ column ∈ columns, column.name ∉ earlier := by
  induction columns generalizing earlier with
  | nil => simp
  | cons column columns ih =>
      obtain ⟨⟨⟩, carried, passed⟩ := Except.bind_eq_ok.1 passed
      split at passed
      · cases passed
      · next new =>
          obtain ⟨others, distinct, later⟩ := ih passed
          refine ⟨?_, ?_, ?_⟩
          · intro other member
            rcases List.mem_cons.1 member with rfl | member
            · exact carried
            · exact others other member
          · rw [List.map_cons, List.nodup_cons]
            refine ⟨fun repeated => ?_, distinct⟩
            obtain ⟨other, member, same⟩ := List.mem_map.1 repeated
            exact later other member (same ▸ List.mem_cons_self)
          · intro other member
            rcases List.mem_cons.1 member with rfl | member
            · exact new
            · exact fun known => later other member (List.mem_cons_of_mem _ known)

end ColumnDeclaration

namespace Database

variable {database changed : Database} {effect : Effect}

theorem wellFormed_new (layout : TagLayout) : (new layout).WellFormed := by
  intro table member
  cases member

theorem WellFormed.find (formed : database.WellFormed) {name : String} {table : Table}
    (found : database.catalog.table name = .ok table) : table.WellFormed database.layout :=
  formed table (Catalog.mem_of_table found)

theorem WellFormed.put (formed : database.WellFormed) {table : Table}
    (new : table.WellFormed database.layout) : (database.put table).WellFormed := by
  intro other member
  rcases List.mem_cons.1 member with rfl | member
  · exact new
  · exact formed other (List.mem_of_mem_filter member)

/-- **A statement keeps the tables well-formed.** -/
theorem wellFormed_execute {statement : Statement} {parameters : List Value}
    (formed : database.WellFormed) (literals : statement.WellFormed)
    (bound : ∀ given ∈ parameters, given.WellFormed)
    (executed : database.execute statement parameters = .ok (changed, effect)) :
    changed.WellFormed := by
  cases execute_eq_ok.1 executed with
  | createTable new passed =>
      obtain ⟨named, nonempty, columnsNamed⟩ := literals
      obtain ⟨carried, distinct, _⟩ := ColumnDeclaration.checked passed
      exact formed.put ⟨named, nonempty, columnsNamed, distinct, carried, by simp⟩
  | dropTable found => exact fun table member => formed table (List.mem_of_mem_filter member)
  | insert found inserted =>
      refine formed.put ((formed.find (Catalog.table_eq_ok.2 found)).insert bound ?_ inserted)
      exact fun row inside expression member =>
        literals expression (List.mem_flatten.2 ⟨row, inside, member⟩)
  | select found selected laidOut => exact formed
  | update found assigned =>
      refine formed.put ((formed.find (Catalog.table_eq_ok.2 found)).update bound ?_ assigned)
      exact fun assignment inside =>
        literals _ (List.mem_append_left _ (List.mem_map_of_mem inside))
  | delete found deleted =>
      exact formed.put ((formed.find (Catalog.table_eq_ok.2 found)).delete deleted)

end Database

end ColumnStore
