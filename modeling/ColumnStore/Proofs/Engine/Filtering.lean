import ColumnStore.Proofs.Engine.Independence
import ColumnStore.Proofs.Engine.Refusal
import ColumnStore.Proofs.Lists

/-!
# What a filter selects

The rows that pass a filter are given by their positions in the table, in increasing order
(`Table.Selection`). A query without a projection returns the rows at these positions, a deletion
leaves the rows at all others, and an update changes the rows at these positions alone, each in
the same way: a cell of an assigned column holds the value of the last assignment to it, and all
others what they held (`Table.Assigned`). A NULL is never equal to anything, so a row whose cell
in the column of the filter is NULL is not selected.

Placeholders are numbered over a whole statement, so that the same filter may stand in an update
under other numbers than in a query. What counts is the column of a filter and the value that it
resolves to (`Filter.asks`).

Main result: `Engine.filter_selects`.
-/

set_option autoImplicit false

namespace ColumnStore

/-- The column of a filter, and what its value resolves to. -/
def Filter.asks (parameters : List Value) (filter : Filter) : String × Except Failure Value :=
  (filter.column, filter.value.resolve parameters)

namespace Table

/-! ## Filters -/

/-- A column of the table exists, and the value of an expression is coerced to its type. -/
structure Accepts (table : Table) (parameters : List Value) (column : String)
    (expression : Expression) (target : Target) (value : Value) : Prop where
  target_eq : table.target column = .ok target
  coerce_eq : target.coerce parameters expression = .ok value

/-- Without a filter every row passes; with one, the cell in its column has to be the same as
its value, which is not NULL. -/
def Passes (table : Table) (parameters : List Value) (filter : Option Filter) (row : Row) : Prop :=
  ∀ condition ∈ filter, ∃ target wanted,
    table.Accepts parameters condition.column condition.value target wanted ∧
      wanted ≠ .null ∧ (cell row target.position).same wanted = true

/-- The positions of the rows that pass a filter. -/
structure Selection (table : Table) (parameters : List Value) (filter : Option Filter)
    (positions : List Nat) : Prop where
  increasing : positions.Pairwise (· < ·)
  mem_iff : ∀ position, position ∈ positions ↔
    ∃ row, table.rows[position]? = some row ∧ table.Passes parameters filter row

section Filters

variable {table : Table} {parameters given : List Value} {filter : Option Filter}

theorem Accepts.unique {column : String} {expression : Expression} {target other : Target}
    {value another : Value} (accepts : table.Accepts parameters column expression target value)
    (again : table.Accepts parameters column expression other another) :
    target = other ∧ value = another := by
  obtain ⟨aimed, coerced⟩ := accepts
  obtain ⟨same, stored⟩ := again
  cases aimed.symm.trans same
  cases coerced.symm.trans stored
  exact ⟨rfl, rfl⟩

/-- A filter on a column of the table with a value for it is a test of rows. -/
theorem exists_test (accepted : ∀ condition ∈ filter, ∃ target wanted,
      table.Accepts parameters condition.column condition.value target wanted) :
    ∃ test, table.test filter parameters = .ok test ∧
      ∀ row, test row = true ↔ table.Passes parameters filter row := by
  cases filter with
  | none => exact ⟨_, rfl, fun row => by simp [Passes]⟩
  | some condition =>
      obtain ⟨target, wanted, accepts⟩ := accepted condition rfl
      have passes (row : Row) : table.Passes parameters (some condition) row ↔
          wanted ≠ .null ∧ (cell row target.position).same wanted = true := by
        constructor
        · intro passed
          obtain ⟨other, another, again, present, same⟩ := passed condition rfl
          obtain ⟨rfl, rfl⟩ := accepts.unique again
          exact ⟨present, same⟩
        · rintro ⟨present, same⟩ _ ⟨⟩
          exact ⟨target, wanted, accepts, present, same⟩
      by_cases absent : wanted = .null
      · subst absent
        refine ⟨fun _ => false, ?_, fun row => by simp [passes row]⟩
        exact Except.bind_eq_ok.2 ⟨_, accepts.target_eq,
          Except.bind_eq_ok.2 ⟨_, accepts.coerce_eq, rfl⟩⟩
      · refine ⟨fun row => (cell row target.position).same wanted, ?_,
          fun row => by simp [passes row, absent]⟩
        have present : wanted.isNull = false := by
          cases wanted <;> first | rfl | exact absurd rfl absent
        refine Except.bind_eq_ok.2 ⟨_, accepts.target_eq,
          Except.bind_eq_ok.2 ⟨_, accepts.coerce_eq, ?_⟩⟩
        rw [present]
        rfl

/-- Filters that ask the same are the same test. -/
theorem test_congr {numbered : Option Filter}
    (same : numbered.map (Filter.asks given) = filter.map (Filter.asks parameters)) :
    table.test numbered given = table.test filter parameters := by
  cases filter with
  | none =>
      cases Option.map_eq_none_iff.1 same
      rfl
  | some condition =>
      obtain ⟨other, rfl, asked⟩ := Option.map_eq_some_iff.1 same
      obtain ⟨column, resolved⟩ := Prod.ext_iff.1 asked
      simp only [Filter.asks] at column resolved
      simp only [test, Target.coerce, column, resolved]

/-- A cell that is NULL is not the same as the value of a filter. -/
theorem Passes.cell_ne_null {condition : Filter} {row : Row} {target : Target}
    (passes : table.Passes parameters (some condition) row)
    (aimed : table.target condition.column = .ok target) : cell row target.position ≠ .null := by
  obtain ⟨other, wanted, accepts, present, same⟩ := passes condition rfl
  cases aimed.symm.trans accepts.target_eq
  intro absent
  rw [absent] at same
  cases wanted <;> first | exact present rfl | cases same

theorem selection_positions {test : Row → Bool}
    (passes : ∀ row, test row = true ↔ table.Passes parameters filter row) :
    table.Selection parameters filter (table.positions test) where
  increasing := table.increasing_positions test
  mem_iff position := by
    rw [mem_positions]
    exact exists_congr fun row => and_congr_right fun _ => passes row

end Filters

/-! ## Updates -/

/-- The last assignment to a column. -/
def lastAssignment (assignments : List Assignment) (column : String) : Option Assignment :=
  assignments.reverse.find? (·.column = column)

/-- What an update makes of the rows of a table, when it assigns to those at some positions. -/
structure Assigned (table : Table) (parameters : List Value) (assignments : List Assignment)
    (positions : List Nat) (rows : List Row) : Prop where
  length_eq : rows.length = table.rows.length
  /-- Rows at other positions are left alone. -/
  besides : ∀ position, position ∉ positions → rows[position]? = table.rows[position]?
  width_eq : ∀ (position : Nat) (before after : Row), table.rows[position]? = some before →
    rows[position]? = some after → after.length = before.length
  /-- An assigned column holds what the value of its last assignment is coerced to. -/
  assigned : ∀ position ∈ positions, ∀ after, rows[position]? = some after →
    ∀ index column assignment, table.columns[index]? = some column →
      lastAssignment assignments column.name = some assignment →
      Target.coerce ⟨index, column⟩ parameters assignment.value = .ok (cell after index)
  /-- A column without assignment holds what it held. -/
  kept : ∀ position ∈ positions, ∀ before after, table.rows[position]? = some before →
    rows[position]? = some after → ∀ index column, table.columns[index]? = some column →
      lastAssignment assignments column.name = none → cell after index = cell before index

section Updates

variable {table : Table} {parameters : List Value} {assignments : List Assignment}
  {values : List (Nat × Value)}

/-- A column is found under its own name only. -/
theorem position_eq_iff (distinct : (table.columns.map (·.name)).Nodup) {name : String}
    {target : Target} (aimed : table.target name = .ok target) {index : Nat}
    {column : ColumnDeclaration} (there : table.columns[index]? = some column) :
    target.position = index ↔ name = column.name := by
  obtain ⟨of, rfl⟩ := target_of aimed
  constructor
  · rintro rfl
    rw [Target.Of, there, Option.some.injEq] at of
    rw [of]
  · intro same
    have inside : target.position < (table.columns.map (·.name)).length := by
      simpa using (List.getElem?_eq_some_iff.1 of).1
    refine (List.getElem?_inj inside distinct).1 ?_
    rw [List.getElem?_map, List.getElem?_map, of, there, Option.map_some, Option.map_some, same]

/-- Every column is found under its own name. -/
theorem target_eq_ok (distinct : (table.columns.map (·.name)).Nodup) {target : Target}
    (of : target.Of table.columns) : table.target target.column.name = .ok target := by
  cases found : table.target target.column.name with
  | error failure =>
      obtain ⟨-, misses⟩ := table.failsFor_target _ failure found
      exact absurd rfl (misses _ (List.mem_of_getElem? of))
  | ok other =>
      obtain ⟨placed, -⟩ := target_of found
      have same : other.position = target.position :=
        (position_eq_iff distinct found of).2 rfl
      rw [Target.Of, same, of, Option.some.injEq] at placed
      obtain ⟨position, column⟩ := other
      cases same
      cases placed
      rfl

/-- The last assignment to a column gives the last value for its position. -/
theorem lastAt_of_assignments (distinct : (table.columns.map (·.name)).Nodup)
    (pairs : List.Forall₂ (fun assignment entry => ∃ target, entry.1 = target.position ∧
      table.Accepts parameters assignment.column assignment.value target entry.2)
      assignments values)
    {index : Nat} {column : ColumnDeclaration} (there : table.columns[index]? = some column) :
    Option.Rel (fun assignment value =>
        Target.coerce ⟨index, column⟩ parameters assignment.value = .ok value)
      (lastAssignment assignments column.name) (lastAt values index) := by
  have decided : ∀ (assignment : Assignment) (entry : Nat × Value),
      (∃ target, entry.1 = target.position ∧
        table.Accepts parameters assignment.column assignment.value target entry.2) →
      decide (assignment.column = column.name) = decide (entry.1 = index) := by
    rintro assignment entry ⟨target, placed, accepts⟩
    rw [placed, decide_eq_decide]
    exact (position_eq_iff distinct accepts.target_eq there).symm
  have related := (List.forall₂_reverse_iff.2 pairs).find? decided
  unfold lastAssignment lastAt
  generalize assignments.reverse.find? _ = assignment at related
  generalize values.reverse.find? _ = entry at related
  cases related with
  | none => exact .none
  | @some assignment entry both =>
      obtain ⟨⟨target, placed, accepts⟩, here⟩ := both
      obtain ⟨of, _⟩ := target_of accepts.target_eq
      have same : target = ⟨index, column⟩ := by
        rw [decide_eq_true_eq, placed] at here
        subst here
        rw [Target.Of, there, Option.some.injEq] at of
        rw [of]
      exact .some (same ▸ accepts.coerce_eq)

/-- Updated rows, one by one. -/
theorem assigned_map {layout : TagLayout} (formed : table.WellFormed layout)
    (pairs : List.Forall₂ (fun assignment entry => ∃ target, entry.1 = target.position ∧
      table.Accepts parameters assignment.column assignment.value target entry.2)
      assignments values) (test : Row → Bool) :
    table.Assigned parameters assignments (table.positions test)
      (table.rows.map fun row => if test row then assign row values else row) := by
  have updated {position : Nat} {before after : Row} (there : table.rows[position]? = some before)
      (now : (table.rows.map fun row => if test row then assign row values else row)[position]? =
        some after) : after = if test before then assign before values else before := by
    rw [List.getElem?_map, there] at now
    exact (Option.some.inj now).symm
  have cell_eq {position : Nat} (member : position ∈ table.positions test) {before after : Row}
      (there : table.rows[position]? = some before)
      (now : (table.rows.map fun row => if test row then assign row values else row)[position]? =
        some after) {index : Nat} {column : ColumnDeclaration}
      (listed : table.columns[index]? = some column) :
      cell after index = (lastAt values index).getD (cell before index) := by
    rw [updated there now, if_pos ((mem_positions_iff test there).1 member)]
    have fits := formed.rows_fit before (List.mem_of_getElem? there)
    exact cell_assign (fits.length_eq ▸ (List.getElem?_eq_some_iff.1 listed).1) values
  refine ⟨List.length_map _, ?_, ?_, ?_, ?_⟩
  · intro position other
    rw [List.getElem?_map]
    cases there : table.rows[position]? with
    | none => rfl
    | some row =>
        have failed := mt (mem_positions_iff test there).2 other
        rw [Option.map_some, if_neg failed]
  · intro position before after there now
    rw [updated there now]
    split
    · exact length_assign before values
    · rfl
  · intro position member after now index column assignment listed last
    obtain ⟨before, there, _⟩ := mem_positions.1 member
    rw [cell_eq member there now listed]
    have related := lastAt_of_assignments formed.distinct pairs listed
    rw [last] at related
    cases found : lastAt values index with
    | none => rw [found] at related; cases related
    | some value =>
        rw [found] at related
        cases related with
        | some coerced => exact coerced
  · intro position member before after there now index column listed last
    have related := lastAt_of_assignments formed.distinct pairs listed
    rw [last] at related
    rw [cell_eq member there now listed]
    cases found : lastAt values index with
    | none => rfl
    | some value => rw [found] at related; cases related

/-- An update with valid assignments succeeds. -/
theorem exists_update {layout : TagLayout} (formed : table.WellFormed layout)
    {filter : Option Filter} {test : Row → Bool} (tested : table.test filter parameters = .ok test)
    (accepted : ∀ assignment ∈ assignments, ∃ target value,
      table.Accepts parameters assignment.column assignment.value target value) :
    ∃ rows, table.update assignments filter parameters =
        .ok ({ table with rows }, (table.positions test).length) ∧
      table.Assigned parameters assignments (table.positions test) rows := by
  have coerced : ∃ values, (assignments.mapM fun assignment => do
      let target ← table.target assignment.column
      return (target.position, ← target.coerce parameters assignment.value)) = .ok values := by
    refine Except.exists_mapM_eq_ok fun assignment member => ?_
    obtain ⟨target, value, aimed, coerced⟩ := accepted assignment member
    exact ⟨_, Except.bind_eq_ok.2 ⟨_, aimed, Except.bind_eq_ok.2 ⟨_, coerced, rfl⟩⟩⟩
  obtain ⟨values, coerced⟩ := coerced
  refine ⟨_, ?_, assigned_map formed ((Except.mapM_eq_ok.1 coerced).imp ?_) test⟩
  · rw [update_eq, length_positions]
    exact Except.bind_eq_ok.2 ⟨values, coerced, Except.bind_eq_ok.2 ⟨test, tested, rfl⟩⟩
  · intro assignment entry one
    obtain ⟨target, aimed, one⟩ := Except.bind_eq_ok.1 one
    obtain ⟨value, stored, whole⟩ := Except.bind_eq_ok.1 one
    cases whole
    exact ⟨target, rfl, aimed, stored⟩

end Updates

/-! ## Queries and deletions -/

section Rows

variable {table : Table} {parameters : List Value} {filter : Option Filter} {test : Row → Bool}

/-- All columns of a row, in order, are the row. -/
theorem map_cell_targets {columns : List ColumnDeclaration} {row : Row}
    (fits : Fits columns row) :
    (columns.zipIdx.map fun entry => cell row entry.2) = row := by
  refine List.ext_getElem? fun index => ?_
  rw [List.getElem?_map, List.getElem?_zipIdx, Option.map_map]
  by_cases inside : index < row.length
  · rw [List.getElem?_eq_getElem (fits.length_eq ▸ inside), List.getElem?_eq_getElem inside]
    simp [cell, inside]
  · rw [List.getElem?_eq_none (Nat.le_of_not_lt inside),
      List.getElem?_eq_none (fits.length_eq ▸ Nat.le_of_not_lt inside)]
    rfl

/-- A deletion leaves the rows that are not selected. -/
theorem delete_positions (tested : table.test filter parameters = .ok test) :
    table.delete filter parameters =
      .ok ({ table with rows := table.rowsBesides (table.positions test) },
        (table.positions test).length) := by
  rw [rowsBesides, ← retain_toArray (table.increasing_positions test)]
  exact Except.bind_eq_ok.2 ⟨test, tested, rfl⟩

end Rows

end Table

namespace Database

variable {database : Database} {name : String} {table : Table} {parameters : List Value}
  {filter : Option Filter} {test : Row → Bool}

/-- A query for all columns that pass a filter changes nothing and returns certain rows. -/
def Returns (database : Database) (name : String) (columns : List ColumnDeclaration)
    (filter : Option Filter) (parameters : List Value) (rows : List Row) : Prop :=
  ∃ native, NativeResult.ofRows database.layout name (columns.map (·.output)) rows = .ok native ∧
    database.execute (.select name none filter) parameters = .ok (database, .rows native)

/-- One table has been put in the place of another, and every other table is what it was. -/
structure Replaced (database changed : Database) (name : String) (table : Table) : Prop where
  own : changed.catalog.find? name = some table
  others : ∀ other, other ≠ name → changed.catalog.find? other = database.catalog.find? other

theorem replaced_put (found : database.catalog.find? name = some table) (rows : List Row) :
    Replaced database (database.put { table with rows }) name { table with rows } := by
  have named := Catalog.name_of_find? found
  refine ⟨?_, fun other apart => (agreeAt_put ?_).find?⟩
  · rw [Database.put, Catalog.find?_put, if_pos named]
  · rw [named]
    exact apart

/-- A query without a projection returns the rows that pass the test. -/
theorem WellFormed.returns (formed : database.WellFormed)
    (found : database.catalog.find? name = some table)
    (tested : table.test filter parameters = .ok test) :
    database.Returns name table.columns filter parameters (table.rows.filter test) := by
  have selects : database.Selects name none filter parameters table
      (table.columns.zipIdx.map fun entry => ⟨entry.2, entry.1⟩) test :=
    ⟨Catalog.table_eq_ok.2 found, rfl, tested⟩
  obtain ⟨native, laid, executed⟩ := exists_rows_of_selects formed selects
  refine ⟨native, ?_, executed⟩
  have whole (row : Row) (member : row ∈ table.rows.filter test) :
      ((table.columns.zipIdx.map fun entry => (⟨entry.2, entry.1⟩ : Table.Target)).map
        fun target => Table.cell row target.position) = row := by
    rw [List.map_map]
    exact Table.map_cell_targets
      ((formed.find selects.table_eq).rows_fit row (List.mem_of_mem_filter member))
  have outputs : table.columns.map (·.output) =
      (table.columns.zipIdx.map fun entry => (⟨entry.2, entry.1⟩ : Table.Target)).map
        fun target => target.column.output := by
    conv_lhs => rw [← List.zipIdx_map_fst 0 table.columns]
    rw [List.map_map, List.map_map]
    rfl
  rw [List.map_congr_left whole, List.map_id'] at laid
  rw [outputs]
  exact laid

end Database

/-- **Queries, deletions and updates agree on what a filter selects.** -/
theorem Engine.filter_selects {engine : Engine} (reachable : engine.Reachable) {number : Nat}
    {database : Database} (kept : engine.databases.find? number = some database) {name : String}
    {table : Table} (found : database.catalog.find? name = some table)
    {filter : Option Filter} {parameters : List Value}
    (accepted : ∀ condition ∈ filter, ∃ target wanted,
      table.Accepts parameters condition.column condition.value target wanted) :
    ∃ positions, table.Selection parameters filter positions ∧
      (∀ position ∈ positions, ∀ row condition target, table.rows[position]? = some row →
        filter = some condition → table.target condition.column = .ok target →
        Table.cell row target.position ≠ .null) ∧
      database.Returns name table.columns filter parameters (table.rowsAt positions) ∧
      (∃ changed, database.execute (.delete name filter) parameters =
          .ok (changed, .affected positions.length) ∧
        database.Replaced changed name { table with rows := table.rowsBesides positions } ∧
        changed.Returns name table.columns filter parameters []) ∧
      ∀ assignments numbered given,
        numbered.map (Filter.asks given) = filter.map (Filter.asks parameters) →
        (∀ assignment ∈ assignments, ∃ target value,
          table.Accepts given assignment.column assignment.value target value) →
        ∃ changed rows, database.execute (.update name assignments numbered) given =
            .ok (changed, .affected positions.length) ∧
          database.Replaced changed name { table with rows } ∧
          table.Assigned given assignments positions rows := by
  have formed := (wellFormed_of_reachable reachable).databases number database kept
  have own := formed.find (Catalog.table_eq_ok.2 found)
  obtain ⟨test, tested, passes⟩ := Table.exists_test accepted
  have selection := Table.selection_positions passes
  refine ⟨table.positions test, selection, ?_, ?_, ?_, ?_⟩
  · rintro position member row condition target there rfl aimed
    obtain ⟨other, same, passed⟩ := (selection.mem_iff position).1 member
    cases there.symm.trans same
    exact passed.cell_ne_null aimed
  · rw [Table.rowsAt_positions]
    exact formed.returns found tested
  · have deleted := Table.delete_positions tested
    have replaced := Database.replaced_put found (table.rowsBesides (table.positions test))
    refine ⟨_, Database.execute_eq_ok.2 (.delete found deleted), replaced, ?_⟩
    have returned := (formed.put (own.delete deleted)).returns replaced.own tested
    have none : (table.rowsBesides (table.positions test)).filter test = [] := by
      simp [Table.rowsBesides_positions]
    rw [← none]
    exact returned
  · intro assignments numbered given same valid
    obtain ⟨rows, updated, assigned⟩ :=
      Table.exists_update own ((Table.test_congr same).trans tested) valid
    exact ⟨_, rows, Database.execute_eq_ok.2 (.update found updated),
      Database.replaced_put found rows, assigned⟩

namespace Engine

/-- A table is made, and three rows are put into it. -/
def Request.listing : List Request :=
  [.openDatabase ⟨true⟩ true none none, .sql "CREATE TABLE t (a VARCHAR(3), b BOOLEAN)",
    .sql "INSERT INTO t VALUES ('x', TRUE), (NULL, FALSE), ('x', FALSE)"]

/-- The rows with a given text are deleted, or a column is assigned to in them; the update has the
text behind the new value. -/
theorem filter_selects_listed : ∃ database table,
    (after Request.listing).databases.find? 0 = some database ∧
    database.catalog.find? "t" = some table ∧
    (∃ target, table.Accepts [.str "x"] "a" (.placeholder 0) target (.str "x")) ∧
    (∃ target, table.Accepts [.bool true, .str "x"] "b" (.placeholder 0) target (.bool true)) ∧
    ∃ positions, table.Selection [.str "x"] (some ⟨"a", .placeholder 0⟩) positions ∧
      (∃ changed, database.execute (.delete "t" (some ⟨"a", .placeholder 0⟩)) [.str "x"] =
          .ok (changed, .affected positions.length) ∧
        changed.catalog.find? "t" = some { table with rows := table.rowsBesides positions }) ∧
      ∃ changed rows, database.execute
          (.update "t" [⟨"b", .placeholder 0⟩] (some ⟨"a", .placeholder 1⟩)) [.bool true, .str "x"] =
          .ok (changed, .affected positions.length) ∧
        changed.catalog.find? "t" = some { table with rows } ∧
        table.Assigned [.bool true, .str "x"] [⟨"b", .placeholder 0⟩] positions rows := by
  have listed : ((after Request.listing).databases.find? 0).bind (·.catalog.find? "t") =
      some ⟨"t", [⟨"a", .varchar 3⟩, ⟨"b", .boolean⟩],
        [[.str "x", .bool true], [.null, .bool false], [.str "x", .bool false]]⟩ := by
    decide +kernel
  obtain ⟨database, kept, found⟩ := Option.bind_eq_some_iff.1 listed
  generalize named : (⟨"t", [⟨"a", .varchar 3⟩, ⟨"b", .boolean⟩],
    [[.str "x", .bool true], [.null, .bool false], [.str "x", .bool false]]⟩ : Table) = table
    at found
  have filtered : table.Accepts [.str "x"] "a" (.placeholder 0) ⟨0, ⟨"a", .varchar 3⟩⟩
      (.str "x") := by
    subst named
    exact ⟨by decide, by decide⟩
  have assigned : table.Accepts [.bool true, .str "x"] "b" (.placeholder 0) ⟨1, ⟨"b", .boolean⟩⟩
      (.bool true) := by
    subst named
    exact ⟨by decide, by decide⟩
  have selected := filter_selects ⟨Request.listing, rfl⟩ kept found
    fun condition (given : some ⟨"a", .placeholder 0⟩ = some condition) => by
      cases given
      exact ⟨_, _, filtered⟩
  obtain ⟨positions, selection, _, _, ⟨changed, deleted, replaced, _⟩, updates⟩ := selected
  obtain ⟨written, rows, updated, put, each⟩ := updates [⟨"b", .placeholder 0⟩]
    (some ⟨"a", .placeholder 1⟩) [.bool true, .str "x"] rfl fun assignment member => by
      cases List.mem_singleton.1 member
      exact ⟨_, _, assigned⟩
  exact ⟨database, table, kept, found, ⟨_, filtered⟩, ⟨_, assigned⟩, positions, selection,
    ⟨changed, deleted, replaced.own⟩, written, rows, updated, put.own, each⟩

end Engine

end ColumnStore
