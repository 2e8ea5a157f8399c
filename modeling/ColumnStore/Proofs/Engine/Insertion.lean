import ColumnStore.Proofs.Engine.Filtering

/-!
# Inserting rows in turn

The rows of an insertion are all made before one of them is put into the table. What is made of a
row depends on the columns of the table and not on its rows, so an insertion of several rows is
the sequence of the insertions of each of them (`Database.insertInTurn_eq`): it succeeds if each
row could be inserted alone, and is refused like the first that could not be.

A column may be listed more than once, in any order. It holds what the last expression listed for
it is coerced to (`Table.Inserted`), and a column that is not listed holds NULL.

Main result: `Engine.insert_in_turn`.
-/

set_option autoImplicit false

namespace ColumnStore

namespace Table

variable {table : Table} {parameters : List Value} {columns : Option (List String)}

/-! ## The rows that are made -/

/-- The names an insertion lists, all of them in order if it lists none. -/
def listed (table : Table) (columns : Option (List String)) : List String :=
  columns.getD (table.columns.map (·.name))

/-- A row made of expressions: a column holds what the last expression listed for it is coerced
to, and NULL without one. -/
structure Inserted (table : Table) (columns : Option (List String)) (parameters : List Value)
    (expressions : List Expression) (row : Row) : Prop where
  count_eq : expressions.length = (table.listed columns).length
  length_eq : row.length = table.columns.length
  written : ∀ (index : Nat) (column : ColumnDeclaration) (assignment : Assignment),
    table.columns[index]? = some column →
    lastAssignment (List.zipWith .mk (table.listed columns) expressions) column.name =
      some assignment →
    Target.coerce ⟨index, column⟩ parameters assignment.value = .ok (cell row index)
  missing : ∀ (index : Nat) (column : ColumnDeclaration), table.columns[index]? = some column →
    lastAssignment (List.zipWith .mk (table.listed columns) expressions) column.name = none →
    cell row index = .null

/-- What is put into a new row are values for assignments to the columns of its targets. -/
theorem forall₂_coerceAll (distinct : (table.columns.map (·.name)).Nodup)
    {pairs : List (Target × Expression)} (aimed : ∀ pair ∈ pairs, pair.1.Of table.columns)
    {values : List (Nat × Value)} (coerced : coerceAll parameters pairs = .ok values) :
    List.Forall₂ (fun (assignment : Assignment) entry => ∃ target, entry.1 = target.position ∧
      table.Accepts parameters assignment.column assignment.value target entry.2)
      (pairs.map fun pair => ⟨pair.1.column.name, pair.2⟩) values := by
  have each := Except.mapM_eq_ok.1 coerced
  clear coerced
  induction each with
  | nil => exact .nil
  | cons one _ ih =>
      refine .cons ?_ (ih fun other member => aimed other (List.mem_cons_of_mem _ member))
      obtain ⟨value, stored, whole⟩ := Except.bind_eq_ok.1 one
      cases whole
      exact ⟨_, rfl, target_eq_ok distinct (aimed _ List.mem_cons_self), stored⟩

/-- The expressions of a row with the names that are listed. -/
theorem zipWith_listed {targets : List Target} (aimed : table.targets columns = .ok targets)
    (expressions : List Expression) :
    List.zipWith Assignment.mk (table.listed columns) expressions =
      (targets.zip expressions).map fun pair => ⟨pair.1.column.name, pair.2⟩ := by
  rw [listed, ← names_of_targets aimed, List.zipWith_map_left, List.zip, List.map_zipWith]

/-- A cell of a new row: what the last assignment to its column is coerced to, or NULL. -/
theorem cell_new (distinct : (table.columns.map (·.name)).Nodup) {assignments : List Assignment}
    {values : List (Nat × Value)}
    (pairs : List.Forall₂ (fun (assignment : Assignment) entry => ∃ target,
      entry.1 = target.position ∧
        table.Accepts parameters assignment.column assignment.value target entry.2)
      assignments values)
    {index : Nat} {column : ColumnDeclaration} (there : table.columns[index]? = some column) :
    (lastAssignment assignments column.name).elim
      (cell (assign (List.replicate table.columns.length .null) values) index = .null)
      fun assignment => Target.coerce ⟨index, column⟩ parameters assignment.value =
        .ok (cell (assign (List.replicate table.columns.length .null) values) index) := by
  have inside := (List.getElem?_eq_some_iff.1 there).1
  have blank : cell (List.replicate table.columns.length .null) index = .null := by
    rw [cell, List.getElem?_replicate_of_lt inside, Option.getD_some]
  rw [cell_assign (by rwa [List.length_replicate]), blank]
  have related := lastAt_of_assignments distinct pairs there
  generalize lastAssignment assignments column.name = last at related ⊢
  generalize lastAt values index = value at related ⊢
  cases related with
  | none => rfl
  | some coerced => exact coerced

/-- A new row is what an insertion puts into the table. -/
theorem inserted_newRow (distinct : (table.columns.map (·.name)).Nodup) {targets : List Target}
    (aimed : table.targets columns = .ok targets) {expressions : List Expression} {row : Row}
    (made : table.newRow targets parameters expressions = .ok row) :
    table.Inserted columns parameters expressions row := by
  unfold newRow at made
  split at made
  · cases made
  · next matching =>
      obtain ⟨values, coerced, whole⟩ := Except.bind_eq_ok.1 made
      cases whole
      have pairs := forall₂_coerceAll distinct
        (fun pair member => targets_of aimed _ (List.of_mem_zip member).1) coerced
      rw [← zipWith_listed aimed] at pairs
      refine ⟨?_, ?_, fun index column assignment there last => ?_,
        fun index column there last => ?_⟩
      · rw [listed, ← names_of_targets aimed, List.length_map]
        exact not_not.1 matching
      · rw [length_assign, List.length_replicate]
      · have held := cell_new distinct pairs there
        rwa [last] at held
      · have held := cell_new distinct pairs there
        rwa [last] at held

end Table

/-- Of two tables that are put under one name, the later stays. -/
theorem Catalog.put_put (catalog : Catalog) {table other : Table} (same : other.name = table.name) :
    (catalog.put table).put other = catalog.put other := by
  simp [put, remove, same, List.filter_filter]

namespace Database

variable {database : Database} {name : String} {columns : Option (List String)}
  {parameters : List Value} {table : Table} {targets : List Table.Target}

/-! ## Insertions in turn -/

/-- Insert a row alone, with a statement of its own. -/
def insertRow (database : Database) (name : String) (columns : Option (List String))
    (parameters : List Value) (row : List Expression) : Except Failure (Database × Effect) :=
  database.execute (.insert name columns [row]) parameters

/-- Insert rows one by one, each with a statement of its own. -/
def insertInTurn (name : String) (columns : Option (List String)) (parameters : List Value)
    (database : Database) (rows : List (List Expression)) : Except Failure Database :=
  rows.foldlM (fun database row => Prod.fst <$> database.insertRow name columns parameters row)
    database

theorem insertInTurn_cons (name : String) (columns : Option (List String))
    (parameters : List Value) (database : Database) (row : List Expression)
    (rest : List (List Expression)) :
    insertInTurn name columns parameters database (row :: rest) =
      (Prod.fst <$> database.insertRow name columns parameters row) >>= fun changed =>
        insertInTurn name columns parameters changed rest :=
  List.foldlM_cons

/-- An insertion makes its rows and puts them behind those of the table. -/
theorem execute_insert (found : database.catalog.find? name = some table)
    (aimed : table.targets columns = .ok targets) (rows : List (List Expression)) :
    database.execute (.insert name columns rows) parameters =
      (fun added => (database.put { table with rows := table.rows ++ added },
        Effect.affected added.length)) <$> rows.mapM (table.newRow targets parameters) := by
  simp only [execute, Table.insert, Catalog.table_eq_ok.2 found, aimed, bind, Except.bind]
  cases rows.mapM (table.newRow targets parameters) <;> rfl

theorem insertRow_eq (found : database.catalog.find? name = some table)
    (aimed : table.targets columns = .ok targets) (row : List Expression) :
    database.insertRow name columns parameters row =
      (fun one => (database.put { table with rows := table.rows ++ [one] }, Effect.affected 1)) <$>
        table.newRow targets parameters row := by
  rw [insertRow, execute_insert found aimed, List.mapM_cons, List.mapM_nil]
  cases table.newRow targets parameters row <;> rfl

/-- Either there is a table with the columns that are listed, or every row is refused for what is
missing. -/
theorem insert_cases (database : Database) (name : String) (columns : Option (List String))
    (parameters : List Value) :
    (∃ table targets, database.catalog.find? name = some table ∧
      table.targets columns = .ok targets) ∨
    ∃ failure, ∀ rows,
      database.execute (.insert name columns rows) parameters = .error failure := by
  cases found : database.catalog.table name with
  | error failure =>
      exact .inr ⟨failure, fun rows => by simp only [execute, found, bind, Except.bind]⟩
  | ok table =>
      cases aimed : table.targets columns with
      | error failure =>
          refine .inr ⟨failure, fun rows => ?_⟩
          simp only [execute, found, Table.insert, aimed, bind, Except.bind]
      | ok targets => exact .inl ⟨table, targets, Catalog.table_eq_ok.1 found, aimed⟩

/-- What each row is made of does not depend on the rows that were inserted before. -/
theorem insertInTurn_of_aimed (found : database.catalog.find? name = some table)
    (aimed : table.targets columns = .ok targets) (row : List Expression)
    (rest : List (List Expression)) :
    insertInTurn name columns parameters database (row :: rest) =
      (fun added => database.put { table with rows := table.rows ++ added }) <$>
        (row :: rest).mapM (table.newRow targets parameters) := by
  induction rest generalizing database table row with
  | nil =>
      rw [insertInTurn_cons, insertRow_eq found aimed, List.mapM_cons, List.mapM_nil]
      cases table.newRow targets parameters row <;> rfl
  | cons next rest ih =>
      rw [insertInTurn_cons, insertRow_eq found aimed, List.mapM_cons]
      cases table.newRow targets parameters row with
      | error failure => rfl
      | ok one =>
          have replaced := replaced_put found (table.rows ++ [one])
          have others := ih replaced.own aimed next
          refine others.trans ?_
          show _ <$> (next :: rest).mapM (table.newRow targets parameters) = _
          cases (next :: rest).mapM (table.newRow targets parameters) with
          | error failure => rfl
          | ok added =>
              refine congrArg Except.ok ?_
              simp only [put, Catalog.put_put, List.append_assoc, List.singleton_append]

/-- Rows that are inserted in turn leave what their insertion leaves, and fail as it fails. -/
theorem insertInTurn_eq (database : Database) (name : String) (columns : Option (List String))
    (parameters : List Value) {rows : List (List Expression)} (nonempty : rows ≠ []) :
    insertInTurn name columns parameters database rows =
      Prod.fst <$> database.execute (.insert name columns rows) parameters := by
  obtain ⟨row, rest, rfl⟩ := List.exists_cons_of_ne_nil nonempty
  rcases database.insert_cases name columns parameters with
    ⟨table, targets, found, aimed⟩ | ⟨failure, refused⟩
  · rw [insertInTurn_of_aimed found aimed, execute_insert found aimed]
    cases (row :: rest).mapM (table.newRow targets parameters) <;> rfl
  · rw [insertInTurn_cons, insertRow, refused, refused]
    rfl

/-- An insertion succeeds if each of its rows could be inserted alone. -/
theorem exists_insert_iff (database : Database) (name : String) (columns : Option (List String))
    (parameters : List Value) {rows : List (List Expression)} (nonempty : rows ≠ []) :
    (∃ answer, database.execute (.insert name columns rows) parameters = .ok answer) ↔
      ∀ row ∈ rows, ∃ answer, database.insertRow name columns parameters row = .ok answer := by
  rcases database.insert_cases name columns parameters with
    ⟨table, targets, found, aimed⟩ | ⟨failure, refused⟩
  · simp only [execute_insert found aimed, insertRow_eq found aimed, Except.map_eq_ok]
    constructor
    · rintro ⟨_, added, made, -⟩ row member
      obtain ⟨one, alone⟩ := Except.exists_of_mapM_eq_ok made member
      exact ⟨_, one, alone, rfl⟩
    · intro each
      have made : ∀ row ∈ rows, ∃ one, table.newRow targets parameters row = .ok one := by
        intro row member
        obtain ⟨_, one, alone, -⟩ := each row member
        exact ⟨one, alone⟩
      obtain ⟨added, whole⟩ := Except.exists_mapM_eq_ok made
      exact ⟨_, added, whole, rfl⟩
  · obtain ⟨row, rest, rfl⟩ := List.exists_cons_of_ne_nil nonempty
    refine iff_of_false (fun ⟨answer, done⟩ => ?_) fun each => ?_
    · cases (refused _).symm.trans done
    · obtain ⟨answer, done⟩ := each row List.mem_cons_self
      cases (refused _).symm.trans done

/-- What an insertion that succeeds puts into its table. -/
theorem WellFormed.inserted (formed : database.WellFormed) {rows : List (List Expression)}
    {changed : Database} {effect : Effect}
    (done : database.execute (.insert name columns rows) parameters = .ok (changed, effect)) :
    effect = .affected rows.length ∧
      ∃ table added, database.catalog.find? name = some table ∧
        database.Replaced changed name { table with rows := table.rows ++ added } ∧
        List.Forall₂ (table.Inserted columns parameters) rows added := by
  rcases database.insert_cases name columns parameters with
    ⟨table, targets, found, aimed⟩ | ⟨failure, refused⟩
  · rw [execute_insert found aimed] at done
    obtain ⟨added, made, whole⟩ := Except.map_eq_ok.1 done
    cases whole
    have each := Except.mapM_eq_ok.1 made
    have distinct := (formed.find (Catalog.table_eq_ok.2 found)).distinct
    refine ⟨by rw [each.length_eq], table, added, found, replaced_put found _, ?_⟩
    exact each.imp fun _ _ one => Table.inserted_newRow distinct aimed one
  · cases (refused rows).symm.trans done

/-- An insertion that fails is refused like the first of its rows that is refused alone. -/
theorem exists_of_insert_eq_error {rows : List (List Expression)} (nonempty : rows ≠ [])
    {failure : Failure}
    (failed : database.execute (.insert name columns rows) parameters = .error failure) :
    ∃ (index : Nat) (row : List Expression), rows[index]? = some row ∧
      database.insertRow name columns parameters row = .error failure ∧
      ∀ earlier < index, ∀ before, rows[earlier]? = some before →
        ∃ answer, database.insertRow name columns parameters before = .ok answer := by
  rcases database.insert_cases name columns parameters with
    ⟨table, targets, found, aimed⟩ | ⟨other, refused⟩
  · rw [execute_insert found aimed] at failed
    cases made : rows.mapM (table.newRow targets parameters) with
    | ok added =>
        rw [made] at failed
        cases failed
    | error other =>
        rw [made] at failed
        cases failed
        obtain ⟨index, row, there, broken, before⟩ := Except.exists_of_mapM_eq_error made
        refine ⟨index, row, there, by rw [insertRow_eq found aimed, broken]; rfl,
          fun earlier less element listed => ?_⟩
        obtain ⟨one, alone⟩ := before earlier less element listed
        exact ⟨_, by rw [insertRow_eq found aimed, alone]; rfl⟩
  · obtain ⟨row, rest, rfl⟩ := List.exists_cons_of_ne_nil nonempty
    cases (refused _).symm.trans failed
    exact ⟨0, row, rfl, refused [row], nofun⟩

end Database

/-- **An insertion of rows is the sequence of the insertions of each of them.** It leaves what they
leave, and succeeds if each of them succeeds alone. Then it counts the rows, which are behind those
of the table and hold what the last expressions listed for their columns are coerced to. Otherwise
nothing changes, and the failure is that of the first row that fails alone. -/
theorem Engine.insert_in_turn {engine : Engine} (reachable : engine.Reachable) {number : Nat}
    {database : Database} (kept : engine.databases.find? number = some database) (name : String)
    (columns : Option (List String)) (parameters : List Value) {rows : List (List Expression)}
    (nonempty : rows ≠ []) :
    Database.insertInTurn name columns parameters database rows =
      Prod.fst <$> database.execute (.insert name columns rows) parameters ∧
    ((∃ answer, database.execute (.insert name columns rows) parameters = .ok answer) ↔
      ∀ row ∈ rows, ∃ answer, database.insertRow name columns parameters row = .ok answer) ∧
    (∀ changed effect,
      database.execute (.insert name columns rows) parameters = .ok (changed, effect) →
        effect = .affected rows.length ∧
        ∃ table added, database.catalog.find? name = some table ∧
          database.Replaced changed name { table with rows := table.rows ++ added } ∧
          List.Forall₂ (table.Inserted columns parameters) rows added) ∧
    ∀ failure, database.execute (.insert name columns rows) parameters = .error failure →
      (database.attempt (.insert name columns rows) parameters).2 = database ∧
      ∃ (index : Nat) (row : List Expression), rows[index]? = some row ∧
        database.insertRow name columns parameters row = .error failure ∧
        ∀ earlier < index, ∀ before, rows[earlier]? = some before →
          ∃ answer, database.insertRow name columns parameters before = .ok answer := by
  have formed := (wellFormed_of_reachable reachable).databases number database kept
  refine ⟨database.insertInTurn_eq name columns parameters nonempty,
    database.exists_insert_iff name columns parameters nonempty,
    fun changed effect done => formed.inserted done, fun failure failed => ⟨?_, ?_⟩⟩
  · rw [Database.attempt, failed]
  · exact Database.exists_of_insert_eq_error nonempty failed

/-- Two rows for a table with two columns; one of the columns is listed twice. -/
def Statement.listedTwice : Statement :=
  .insert "t" (some ["b", "a", "b"])
    [[.literal (.bool true), .placeholder 0, .literal (.bool false)],
      [.literal .null, .literal (.str "y"), .literal (.bool true)]]

namespace Engine

/-- Both rows have what is listed last. -/
theorem insert_in_turn_listed_twice : ∃ database changed table,
    (after Request.listing).databases.find? 0 = some database ∧
    database.execute Statement.listedTwice [.str "x"] = .ok (changed, .affected 2) ∧
    Database.insertInTurn "t" (some ["b", "a", "b"]) [.str "x"] database
      [[.literal (.bool true), .placeholder 0, .literal (.bool false)],
        [.literal .null, .literal (.str "y"), .literal (.bool true)]] = .ok changed ∧
    database.catalog.find? "t" = some table ∧
    changed.catalog.find? "t" = some
      { table with rows := table.rows ++ [[.str "x", .bool false], [.str "y", .bool true]] } := by
  have tables : ((after Request.listing).databases.find? 0).map (fun database =>
      (database.catalog.find? "t",
        (database.execute Statement.listedTwice [.str "x"]).toOption.bind
          (·.1.catalog.find? "t"))) =
      some (some ⟨"t", [⟨"a", .varchar 3⟩, ⟨"b", .boolean⟩],
          [[.str "x", .bool true], [.null, .bool false], [.str "x", .bool false]]⟩,
        some ⟨"t", [⟨"a", .varchar 3⟩, ⟨"b", .boolean⟩],
          [[.str "x", .bool true], [.null, .bool false], [.str "x", .bool false],
            [.str "x", .bool false], [.str "y", .bool true]]⟩) := by
    decide +kernel
  obtain ⟨database, kept, both⟩ := Option.map_eq_some_iff.1 tables
  obtain ⟨found, grown⟩ := Prod.ext_iff.1 both
  obtain ⟨⟨changed, effect⟩, done, grown⟩ := Option.bind_eq_some_iff.1 grown
  obtain ⟨inTurn, -, succeeded, -⟩ := insert_in_turn ⟨Request.listing, rfl⟩ kept "t"
    (some ["b", "a", "b"]) [.str "x"]
    (List.cons_ne_nil [.literal (.bool true), .placeholder 0, .literal (.bool false)]
      [[.literal .null, .literal (.str "y"), .literal (.bool true)]])
  have executed : database.execute Statement.listedTwice [.str "x"] = .ok (changed, effect) := by
    cases outcome : database.execute Statement.listedTwice [.str "x"] with
    | error failure => rw [outcome] at done; cases done
    | ok answer => rw [outcome] at done; cases done; rfl
  obtain ⟨rfl, -⟩ := succeeded changed effect executed
  exact ⟨database, changed, _, kept, executed,
    inTurn.trans (congrArg (Prod.fst <$> ·) executed), found, grown⟩

end Engine

end ColumnStore
