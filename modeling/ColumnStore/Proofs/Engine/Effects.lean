import ColumnStore.Engine.Database
import ColumnStore.Proofs.Engine.Positions
import ColumnStore.Proofs.Except
import Mathlib.Data.List.Induction

/-!
# What a statement does

Everything that a successful statement can do to a database, one case for each kind of statement
(`Database.Performs`): at most the table that it names is made, replaced or taken out, a replaced
table keeps its name and its columns, and nothing else of the database changes. Whatever is kept
by statements is proved from this list.

Main result: `Database.execute_eq_ok`.
-/

set_option autoImplicit false

namespace ColumnStore

/-! ## The tables of a catalog -/

namespace Catalog

variable {catalog : Catalog} {name : String} {table : Table}

theorem table_eq_ok : catalog.table name = .ok table ↔ catalog.find? name = some table := by
  unfold Catalog.table
  cases catalog.find? name <;> simp

theorem mem_of_table (found : catalog.table name = .ok table) : table ∈ catalog.tables :=
  List.mem_of_find?_eq_some (table_eq_ok.1 found)

theorem name_of_find? (found : catalog.find? name = some table) : table.name = name := by
  have named := List.find?_some found
  exact of_decide_eq_true named

end Catalog

namespace Table

/-! ## Assigned cells -/

/-- The value that is put last at a position, if any is. -/
def lastAt (values : List (Nat × Value)) (position : Nat) : Option Value :=
  (values.reverse.find? (·.1 = position)).map (·.2)

section Assign

variable {row : Row} {position : Nat}

theorem cell_of_length_le (outside : row.length ≤ position) : cell row position = .null := by
  rw [cell, List.getElem?_eq_none outside, Option.getD_none]

theorem assign_append (row : Row) (values : List (Nat × Value)) (entry : Nat × Value) :
    assign row (values ++ [entry]) = (assign row values).set entry.1 entry.2 := by
  simp [assign]

@[simp]
theorem length_assign (row : Row) (values : List (Nat × Value)) :
    (assign row values).length = row.length := by
  induction values using List.reverseRecOn with
  | nil => rfl
  | append_singleton earlier entry ih => rw [assign_append, List.length_set, ih]

/-- The last value for a position counts, and the others keep what they hold. -/
theorem cell_assign (inside : position < row.length) (values : List (Nat × Value)) :
    cell (assign row values) position = (lastAt values position).getD (cell row position) := by
  induction values using List.reverseRecOn with
  | nil => rfl
  | append_singleton earlier entry ih =>
      rw [assign_append, lastAt, List.reverse_append, List.reverse_singleton,
        List.singleton_append, List.find?_cons]
      by_cases here : entry.1 = position
      · simp [cell, here, inside]
      · rw [decide_eq_false here]
        rw [cell, List.getElem?_set_ne here]
        exact ih

/-- An assigned cell holds what it held, or one of the values for its position. -/
theorem cell_assign_cases (row : Row) (values : List (Nat × Value)) (position : Nat) :
    cell (assign row values) position = cell row position ∨
      (position, cell (assign row values) position) ∈ values := by
  by_cases inside : position < row.length
  · rw [cell_assign inside, lastAt]
    cases last : values.reverse.find? (·.1 = position) with
    | none => exact .inl rfl
    | some entry =>
        have here := List.find?_some last
        rw [decide_eq_true_eq] at here
        have member := List.mem_reverse.1 (List.mem_of_find?_eq_some last)
        subst here
        exact .inr member
  · left
    have outside := Nat.le_of_not_lt inside
    rw [cell_of_length_le outside, cell_of_length_le (by rwa [length_assign])]

end Assign

/-! ## Statements on one table change its rows alone -/

variable {table changed : Table} {parameters : List Value} {count : Nat}

theorem insert_withRows {names : Option (List String)} {rows : List (List Expression)}
    (inserted : table.insert names rows parameters = .ok (changed, count)) :
    changed = { table with rows := changed.rows } := by
  obtain ⟨targets, _, inserted⟩ := Except.bind_eq_ok.1 inserted
  obtain ⟨added, _, whole⟩ := Except.bind_eq_ok.1 inserted
  cases whole
  rfl

theorem update_withRows {assignments : List Assignment} {filter : Option Filter}
    (updated : table.update assignments filter parameters = .ok (changed, count)) :
    changed = { table with rows := changed.rows } := by
  obtain ⟨values, _, updated⟩ := Except.bind_eq_ok.1 updated
  obtain ⟨test, _, whole⟩ := Except.bind_eq_ok.1 updated
  cases whole
  rfl

theorem delete_withRows {filter : Option Filter}
    (deleted : table.delete filter parameters = .ok (changed, count)) :
    changed = { table with rows := changed.rows } := by
  obtain ⟨test, _, whole⟩ := Except.bind_eq_ok.1 deleted
  cases whole
  rfl

end Table

namespace Database

variable {database changed : Database} {statement : Statement} {parameters : List Value}
  {effect : Effect}

/-! ## Successful statements -/

/-- What the database is and what is answered after a statement that succeeds. -/
inductive Performs (database : Database) (parameters : List Value) :
    Statement → Database → Effect → Prop
  | createTable {name : String} {columns : List ColumnDeclaration}
      (new : database.catalog.find? name = none)
      (passed : ColumnDeclaration.checkAll database.layout [] columns = .ok ()) :
      Performs database parameters (.createTable name columns) (database.put ⟨name, columns, []⟩)
        .schema
  | dropTable {name : String} {table : Table} (found : database.catalog.find? name = some table) :
      Performs database parameters (.dropTable name)
        { database with catalog := database.catalog.remove name } .schema
  | insert {name : String} {columns : Option (List String)} {rows : List (List Expression)}
      {table grown : Table} {count : Nat} (found : database.catalog.find? name = some table)
      (inserted : table.insert columns rows parameters = .ok (grown, count)) :
      Performs database parameters (.insert name columns rows) (database.put grown)
        (.affected count)
  | select {name : String} {projection : Option (List String)} {filter : Option Filter}
      {table : Table} {targets : List Table.Target} {rows : List Row} {result : NativeResult}
      (found : database.catalog.find? name = some table)
      (selected : table.select projection filter parameters = .ok (targets, rows))
      (laidOut : NativeResult.ofRows database.layout name
        (targets.map fun target => target.column.output) rows = .ok result) :
      Performs database parameters (.select name projection filter) database (.rows result)
  | update {name : String} {assignments : List Assignment} {filter : Option Filter}
      {table updated : Table} {count : Nat} (found : database.catalog.find? name = some table)
      (assigned : table.update assignments filter parameters = .ok (updated, count)) :
      Performs database parameters (.update name assignments filter) (database.put updated)
        (.affected count)
  | delete {name : String} {filter : Option Filter} {table shrunk : Table} {count : Nat}
      (found : database.catalog.find? name = some table)
      (deleted : table.delete filter parameters = .ok (shrunk, count)) :
      Performs database parameters (.delete name filter) (database.put shrunk) (.affected count)

theorem performs_of_execute (executed : database.execute statement parameters =
    .ok (changed, effect)) : database.Performs parameters statement changed effect := by
  cases statement with
  | createTable name columns =>
      simp only [execute] at executed
      split at executed
      · cases executed
      · next missing =>
          obtain ⟨⟨⟩, passed, whole⟩ := Except.bind_eq_ok.1 executed
          cases whole
          exact .createTable (Option.not_isSome_iff_eq_none.1 missing) passed
  | dropTable name =>
      simp only [execute] at executed
      split at executed
      · cases executed
      · next present =>
          cases executed
          obtain ⟨table, found⟩ :=
            Option.ne_none_iff_exists'.1 (mt Option.isNone_iff_eq_none.2 present)
          exact .dropTable found
  | insert name columns rows =>
      obtain ⟨table, found, executed⟩ := Except.bind_eq_ok.1 executed
      obtain ⟨⟨grown, count⟩, inserted, whole⟩ := Except.bind_eq_ok.1 executed
      cases whole
      exact .insert (Catalog.table_eq_ok.1 found) inserted
  | select name projection filter =>
      obtain ⟨table, found, executed⟩ := Except.bind_eq_ok.1 executed
      obtain ⟨⟨targets, rows⟩, selected, executed⟩ := Except.bind_eq_ok.1 executed
      obtain ⟨result, laidOut, whole⟩ := Except.bind_eq_ok.1 executed
      cases whole
      exact .select (Catalog.table_eq_ok.1 found) selected laidOut
  | update name assignments filter =>
      obtain ⟨table, found, executed⟩ := Except.bind_eq_ok.1 executed
      obtain ⟨⟨updated, count⟩, assigned, whole⟩ := Except.bind_eq_ok.1 executed
      cases whole
      exact .update (Catalog.table_eq_ok.1 found) assigned
  | delete name filter =>
      obtain ⟨table, found, executed⟩ := Except.bind_eq_ok.1 executed
      obtain ⟨⟨shrunk, count⟩, deleted, whole⟩ := Except.bind_eq_ok.1 executed
      cases whole
      exact .delete (Catalog.table_eq_ok.1 found) deleted

theorem Performs.execute (performs : database.Performs parameters statement changed effect) :
    database.execute statement parameters = .ok (changed, effect) := by
  cases performs with
  | createTable new passed =>
      simp [Database.execute, new, passed, pure, Except.pure, bind, Except.bind]
  | dropTable found => simp [Database.execute, found, pure, Except.pure]
  | insert found inserted =>
      exact Except.bind_eq_ok.2 ⟨_, Catalog.table_eq_ok.2 found,
        Except.bind_eq_ok.2 ⟨_, inserted, rfl⟩⟩
  | select found selected laidOut =>
      exact Except.bind_eq_ok.2 ⟨_, Catalog.table_eq_ok.2 found,
        Except.bind_eq_ok.2 ⟨_, selected, Except.bind_eq_ok.2 ⟨_, laidOut, rfl⟩⟩⟩
  | update found assigned =>
      exact Except.bind_eq_ok.2 ⟨_, Catalog.table_eq_ok.2 found,
        Except.bind_eq_ok.2 ⟨_, assigned, rfl⟩⟩
  | delete found deleted =>
      exact Except.bind_eq_ok.2 ⟨_, Catalog.table_eq_ok.2 found,
        Except.bind_eq_ok.2 ⟨_, deleted, rfl⟩⟩

/-- **The cases of `Performs` are the statements that succeed.** -/
theorem execute_eq_ok : database.execute statement parameters = .ok (changed, effect) ↔
    database.Performs parameters statement changed effect :=
  ⟨performs_of_execute, Performs.execute⟩

/-- Statements that change the rows of one table, on two databases with the same table: the same
rows are put into both. -/
theorem agree_change {other : Database} {name : String}
    {related : Database × Effect → Database × Effect → Prop}
    {change : Table → Except Failure (Table × Nat)}
    (same : other.catalog.table name = database.catalog.table name)
    (kept : ∀ table answer, change table = .ok answer →
      answer.1 = { table with rows := answer.1.rows })
    (put : ∀ table rows count, database.catalog.table name = .ok table →
      related (database.put { table with rows }, .affected count)
        (other.put { table with rows }, .affected count)) :
    Except.Agree related
      (do let table ← database.catalog.table name
          let (table, count) ← change table
          return (database.put table, Effect.affected count))
      (do let table ← other.catalog.table name
          let (table, count) ← change table
          return (other.put table, Effect.affected count)) := by
  rw [same]
  refine Except.Agree.bind_self fun table found => ?_
  refine Except.Agree.bind_self fun answer changed => .ok ?_
  rw [kept table answer changed]
  exact put table _ _ found

/-- A statement does not change the layout of its database. -/
theorem layout_execute (executed : database.execute statement parameters = .ok (changed, effect)) :
    changed.layout = database.layout := by
  cases execute_eq_ok.1 executed <;> rfl

end Database

end ColumnStore
