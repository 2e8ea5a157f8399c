import ColumnStore.Proofs.Engine.Effects
import Mathlib.Data.List.Perm.Basic

/-!
# Statements on different tables

A statement reads and changes one table, the one that it names. For every other name the
database is left as it was (`Database.agreeAt_attempt`), and what the statement answers and makes
of its own table depends on that table alone (`Database.attempt_congr`). Two statements on
different tables therefore do the same in both orders, also where one of them, or both, fail.

A catalog may list its tables in any order, and after two statements the order depends on which
came first. Databases are compared name by name, and two catalogs with the same tables under
every name are permutations of each other (`Catalog.perm_of_named`).

Main result: `Database.inTurn_comm`.
-/

set_option autoImplicit false

namespace ColumnStore

namespace Catalog

variable {catalog other : Catalog} {name : String}

/-! ## Tables under one name -/

/-- The tables that have a name. -/
def named (catalog : Catalog) (name : String) : List Table :=
  catalog.tables.filter (·.name = name)

theorem head?_named (catalog : Catalog) (name : String) :
    (catalog.named name).head? = catalog.find? name :=
  List.head?_filter

theorem named_remove_self (catalog : Catalog) (name : String) :
    (catalog.remove name).named name = [] := by
  simp [named, remove, List.filter_filter]

theorem named_remove_of_ne (catalog : Catalog) {removed : String} (apart : name ≠ removed) :
    (catalog.remove removed).named name = catalog.named name := by
  unfold named remove
  rw [List.filter_filter]
  refine List.filter_congr fun table _ => ?_
  by_cases here : table.name = name <;> simp [here, apart]

theorem named_put_self (catalog : Catalog) (table : Table) :
    (catalog.put table).named table.name = [table] := by
  have others := catalog.named_remove_self table.name
  unfold named put at *
  rw [List.filter_cons_of_pos (by simp), others]

theorem named_put_of_ne (catalog : Catalog) {table : Table} (apart : name ≠ table.name) :
    (catalog.put table).named name = catalog.named name := by
  rw [← catalog.named_remove_of_ne apart]
  exact List.filter_cons_of_neg (by simpa using apart.symm)

/-- The same tables under every name are the same tables in another order. -/
theorem perm_of_named (same : ∀ name, catalog.named name = other.named name) :
    catalog.tables.Perm other.tables := by
  refine List.perm_iff_count.2 fun table => ?_
  have counted (tables : List Table) :
      (tables.filter (·.name = table.name)).count table = tables.count table :=
    List.count_filter (decide_eq_true rfl)
  rw [← counted catalog.tables, ← counted other.tables]
  exact congrArg _ (same table.name)

end Catalog

namespace Database

/-! ## Databases that agree on the tables of a name -/

/-- Two databases have the same tables under a name, and differ at most in other tables. -/
structure AgreeAt (name : String) (database other : Database) : Prop where
  named : database.catalog.named name = other.catalog.named name
  rest : other = { database with catalog := other.catalog }

namespace AgreeAt

variable {name : String} {database other third : Database}

theorem refl (name : String) (database : Database) : AgreeAt name database database :=
  ⟨rfl, rfl⟩

theorem symm (agree : AgreeAt name database other) : AgreeAt name other database := by
  refine ⟨agree.named.symm, ?_⟩
  rw [agree.rest]

theorem trans (agree : AgreeAt name database other) (next : AgreeAt name other third) :
    AgreeAt name database third := by
  refine ⟨agree.named.trans next.named, ?_⟩
  rw [next.rest, agree.rest]

theorem layout (agree : AgreeAt name database other) : other.layout = database.layout := by
  rw [agree.rest]

theorem find? (agree : AgreeAt name database other) :
    database.catalog.find? name = other.catalog.find? name := by
  rw [← Catalog.head?_named, agree.named, Catalog.head?_named]

theorem table (agree : AgreeAt name database other) :
    database.catalog.table name = other.catalog.table name := by
  rw [Catalog.table, agree.find?, Catalog.table]

/-- The same table is put into both databases. -/
theorem put (agree : AgreeAt name database other) {table : Table} (named : table.name = name) :
    AgreeAt name (database.put table) (other.put table) := by
  subst named
  refine ⟨?_, ?_⟩
  · rw [Database.put, Database.put, Catalog.named_put_self, Catalog.named_put_self]
  · rw [agree.rest]
    rfl

theorem remove (agree : AgreeAt name database other) :
    AgreeAt name { database with catalog := database.catalog.remove name }
      { other with catalog := other.catalog.remove name } := by
  refine ⟨?_, ?_⟩
  · rw [Catalog.named_remove_self, Catalog.named_remove_self]
  · rw [agree.rest]

end AgreeAt

variable {database changed other : Database} {statement : Statement} {parameters : List Value}
  {effect : Effect} {name : String}

/-! ## A statement leaves other tables alone -/

theorem agreeAt_put {table : Table} (apart : name ≠ table.name) :
    AgreeAt name (database.put table) database :=
  ⟨database.catalog.named_put_of_ne apart, rfl⟩

/-- **A statement leaves the tables of every other name alone.** -/
theorem Performs.agreeAt (performs : database.Performs parameters statement changed effect)
    (apart : name ≠ statement.table) : AgreeAt name changed database := by
  -- what is put is the table found under the name of the statement, with other rows
  have replaced {before after : Table} {table : String}
      (found : database.catalog.find? table = some before)
      (made : after = { before with rows := after.rows }) (apart : name ≠ table) :
      AgreeAt name (database.put after) database := by
    apply agreeAt_put
    rw [made]
    exact Catalog.name_of_find? found ▸ apart
  cases performs with
  | createTable new passed => exact agreeAt_put apart
  | dropTable found => exact ⟨database.catalog.named_remove_of_ne apart, rfl⟩
  | insert found inserted => exact replaced found (Table.insert_withRows inserted) apart
  | select found selected laidOut => exact .refl _ _
  | update found assigned => exact replaced found (Table.update_withRows assigned) apart
  | delete found deleted => exact replaced found (Table.delete_withRows deleted) apart

/-! ## A statement depends on its table alone -/

/-- **What a statement answers and makes of its table depends on that table alone.** -/
theorem AgreeAt.execute (agree : AgreeAt statement.table database other)
    (parameters : List Value) :
    Except.Agree
      (fun answer result => AgreeAt statement.table answer.1 result.1 ∧ answer.2 = result.2)
      (database.execute statement parameters) (other.execute statement parameters) := by
  have put (table : Table) (rows : List Row) (count : Nat)
      (found : database.catalog.table statement.table = .ok table) :
      AgreeAt statement.table (database.put { table with rows }) (other.put { table with rows }) ∧
        Effect.affected count = .affected count := by
    have named := Catalog.name_of_find? (Catalog.table_eq_ok.1 found)
    exact ⟨agree.put named, rfl⟩
  cases statement with
  | createTable name columns =>
      simp only [Database.execute, Statement.table] at agree ⊢
      rw [agree.find?, agree.layout]
      split
      · exact .error _
      · exact Except.Agree.bind_self fun _ _ => .ok ⟨agree.put rfl, rfl⟩
  | dropTable name =>
      simp only [Database.execute, Statement.table] at agree ⊢
      rw [agree.find?]
      split
      · exact .error _
      · exact .ok ⟨agree.remove, rfl⟩
  | insert name columns rows =>
      exact agree_change agree.table.symm (fun _ _ => Table.insert_withRows) put
  | select name projection filter =>
      simp only [Database.execute, Statement.table] at agree ⊢
      rw [agree.table, agree.layout]
      refine Except.Agree.bind_self fun table _ => ?_
      refine Except.Agree.bind_self fun answer _ => ?_
      exact Except.Agree.bind_self fun result _ => .ok ⟨agree, rfl⟩
  | update name assignments filter =>
      exact agree_change agree.table.symm (fun _ _ => Table.update_withRows) put
  | delete name filter =>
      exact agree_change agree.table.symm (fun _ _ => Table.delete_withRows) put

/-! ## Outcomes -/

/-- What a statement answers, and the database afterwards; a failure changes nothing. -/
def attempt (database : Database) (statement : Statement) (parameters : List Value) :
    Except Failure Effect × Database :=
  match database.execute statement parameters with
  | .ok (changed, effect) => (.ok effect, changed)
  | .error failure => (.error failure, database)

theorem agreeAt_attempt (database : Database) (parameters : List Value)
    (apart : name ≠ statement.table) :
    AgreeAt name (database.attempt statement parameters).2 database := by
  unfold attempt
  cases executed : database.execute statement parameters with
  | error failure => exact .refl _ _
  | ok answer => exact (performs_of_execute executed).agreeAt apart

theorem attempt_congr (agree : AgreeAt statement.table database other)
    (parameters : List Value) :
    (database.attempt statement parameters).1 = (other.attempt statement parameters).1 ∧
      AgreeAt statement.table (database.attempt statement parameters).2
        (other.attempt statement parameters).2 := by
  have same := agree.execute parameters
  unfold attempt
  generalize database.execute statement parameters = here at same
  generalize other.execute statement parameters = there at same
  cases same with
  | ok both => exact ⟨congrArg Except.ok both.2, both.1⟩
  | error failure => exact ⟨rfl, agree⟩

/-- Two statements, each with its parameters, one after the other: what they answer, and the
database afterwards. -/
def inTurn (database : Database) (first second : Statement × List Value) :
    (Except Failure Effect × Except Failure Effect) × Database :=
  let (early, middle) := database.attempt first.1 first.2
  let (late, last) := middle.attempt second.1 second.2
  ((early, late), last)

/-- Two databases have the same tables, in whatever order, and nothing else differs. -/
structure SameTables (database other : Database) : Prop where
  tables : database.catalog.tables.Perm other.catalog.tables
  find? : ∀ name, database.catalog.find? name = other.catalog.find? name
  rest : other = { database with catalog := other.catalog }

theorem sameTables_of_agreeAt (agree : ∀ name, AgreeAt name database other) :
    SameTables database other where
  tables := Catalog.perm_of_named fun name => (agree name).named
  find? name := (agree name).find?
  rest := (agree "").rest

section InTurn

variable {first second : Statement × List Value}

/-- The first statement answers as it does after the other one. -/
theorem inTurn_first (apart : first.1.table ≠ second.1.table) (database : Database) :
    (database.inTurn first second).1.1 = (database.inTurn second first).1.2 :=
  (attempt_congr (agreeAt_attempt database second.2 apart).symm first.2).1

/-- The table of the first statement is what it is after the other order. -/
theorem inTurn_agreeAt (apart : first.1.table ≠ second.1.table) (database : Database) :
    AgreeAt first.1.table (database.inTurn first second).2 (database.inTurn second first).2 :=
  (agreeAt_attempt _ second.2 apart).trans
    (attempt_congr (agreeAt_attempt database second.2 apart).symm first.2).2

/-- **Statements on different tables are independent**: in both orders each answers the same and
the same tables are left, whether they succeed or fail. -/
theorem inTurn_comm (apart : first.1.table ≠ second.1.table) (database : Database) :
    (database.inTurn first second).1 = (database.inTurn second first).1.swap ∧
      SameTables (database.inTurn first second).2 (database.inTurn second first).2 := by
  refine ⟨Prod.ext (inTurn_first apart database) (inTurn_first apart.symm database).symm, ?_⟩
  refine sameTables_of_agreeAt fun name => ?_
  by_cases early : name = first.1.table
  · subst early
    exact inTurn_agreeAt apart database
  by_cases late : name = second.1.table
  · subst late
    exact (inTurn_agreeAt apart.symm database).symm
  have forward := (agreeAt_attempt (database.attempt first.1 first.2).2 second.2 late).trans
    (agreeAt_attempt database first.2 early)
  have backward := (agreeAt_attempt (database.attempt second.1 second.2).2 first.2 early).trans
    (agreeAt_attempt database second.2 late)
  exact forward.trans backward.symm

/-- A database with one table of texts. -/
def holdingTexts (rows : List Row) : Database :=
  (new ⟨true⟩).put ⟨"t", [⟨"a", .varchar 0⟩], rows⟩

/-- Rows are deleted from one table, and another one, which there is not, is to be filled: the
second statement fails in both orders. -/
theorem inTurn_comm_deletion :
    ("t" : String) ≠ "u" ∧
      (holdingTexts [[.str "x"], [.null]]).inTurn (.delete "t" none, [])
          (.insert "u" none [[.placeholder 0]], [.str "y"]) =
        ((.ok (.affected 2), .error (.unknownTable "u")), holdingTexts []) ∧
      ∃ last, (holdingTexts [[.str "x"], [.null]]).inTurn
          (.insert "u" none [[.placeholder 0]], [.str "y"]) (.delete "t" none, []) =
        ((.error (.unknownTable "u"), .ok (.affected 2)), last) ∧
        SameTables last (holdingTexts []) := by
  have deleted : (holdingTexts [[.str "x"], [.null]]).attempt (.delete "t" none) [] =
      (.ok (.affected 2), holdingTexts []) := by
    have removed : Table.delete ⟨"t", [⟨"a", .varchar 0⟩], [[.str "x"], [.null]]⟩ none [] =
        .ok (⟨"t", [⟨"a", .varchar 0⟩], []⟩, 2) := by
      rw [Table.delete_eq]
      rfl
    rw [attempt, execute_eq_ok.2 (.delete rfl removed)]
    rfl
  have refused (rows : List Row) :
      (holdingTexts rows).attempt (.insert "u" none [[.placeholder 0]]) [.str "y"] =
        (.error (.unknownTable "u"), holdingTexts rows) := rfl
  have answered : (holdingTexts [[.str "x"], [.null]]).inTurn (.delete "t" none, [])
      (.insert "u" none [[.placeholder 0]], [.str "y"]) =
        ((.ok (.affected 2), .error (.unknownTable "u")), holdingTexts []) := by
    simp only [inTurn, deleted, refused]
  have same := @inTurn_comm (.insert "u" none [[.placeholder 0]], [.str "y"])
    (.delete "t" none, []) (by decide) (holdingTexts [[.str "x"], [.null]])
  rw [answered] at same
  exact ⟨by decide, answered, _, Prod.ext same.1 rfl, same.2⟩

end InTurn

end Database

end ColumnStore
