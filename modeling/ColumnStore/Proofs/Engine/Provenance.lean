import ColumnStore.Proofs.Engine.Changes

/-!
# Where cells come from

A cell is NULL, or it holds what some statement had a value for: a statement that inserted a row
or assigned to a column, coerced to the type of its column. The statement names what it writes
(`Database.Writes`); one that succeeds puts nothing else into the tables (`Performs.eachCell`),
and the tables of a database are changed by requests that run a statement on it and by no others
(`Engine.descends_perform`). Along any list of requests every cell can be traced back to the
request that wrote it.

Main result: `Engine.eachCell_after`.
-/

set_option autoImplicit false

namespace ColumnStore

/-! ## Cells of a table -/

namespace Table

/-- Each cell of a row has a property, which may depend on its column. -/
def EachCell (property : ColumnDeclaration → Value → Prop) (columns : List ColumnDeclaration)
    (row : Row) : Prop :=
  ∀ (position : Nat) (column : ColumnDeclaration), columns[position]? = some column →
    property column (cell row position)

variable {property : ColumnDeclaration → Value → Prop} {table changed : Table} {row : Row}
  {parameters : List Value} {count : Nat}

theorem eachCell_nulls (null : ∀ column, property column .null) (columns : List ColumnDeclaration)
    (width : Nat) : EachCell property columns (List.replicate width .null) := by
  intro position column _
  have absent : cell (List.replicate width .null) position = .null := by
    unfold cell
    rw [List.getElem?_replicate]
    split <;> rfl
  rw [absent]
  exact null column

theorem EachCell.assign {columns : List ColumnDeclaration} (each : EachCell property columns row)
    {values : List (Nat × Value)} (put : ∀ entry ∈ values, ∀ column,
      columns[entry.1]? = some column → property column entry.2) :
    EachCell property columns (assign row values) := by
  intro position column listed
  rcases cell_assign_cases row values position with same | new
  · rw [same]
    exact each position column listed
  · exact put _ new column listed

theorem eachCell_newRow {targets : List Target} {expressions : List Expression}
    (null : ∀ column, property column .null) (aimed : ∀ target ∈ targets, target.Of table.columns)
    (written : ∀ target expression value stored, (target, expression) ∈ targets.zip expressions →
      expression.resolve parameters = .ok value → target.column.type.coerce value = .ok stored →
      property target.column stored)
    (made : table.newRow targets parameters expressions = .ok row) :
    EachCell property table.columns row := by
  unfold newRow at made
  split at made
  · cases made
  · obtain ⟨values, coerced, whole⟩ := Except.bind_eq_ok.1 made
    cases whole
    refine (eachCell_nulls null _ _).assign fun entry member column listed => ?_
    obtain ⟨⟨target, expression⟩, paired, one⟩ := Except.exists_of_mem_mapM coerced member
    obtain ⟨stored, stores, whole⟩ := Except.bind_eq_ok.1 one
    cases whole
    obtain ⟨value, resolved, stores⟩ := Except.bind_eq_ok.1 stores
    cases (aimed target (List.of_mem_zip paired).1).symm.trans listed
    exact written target expression value stored paired resolved stores

end Table

/-- Each cell of the tables has a property, which may depend on its table and its column. -/
def Catalog.EachCell (property : String → ColumnDeclaration → Value → Prop) (catalog : Catalog) :
    Prop :=
  ∀ table ∈ catalog.tables, ∀ row ∈ table.rows,
    Table.EachCell (property table.name) table.columns row

theorem Catalog.EachCell.put {property : String → ColumnDeclaration → Value → Prop}
    {catalog : Catalog} (each : catalog.EachCell property) {table : Table}
    (new : ∀ row ∈ table.rows, Table.EachCell (property table.name) table.columns row) :
    (catalog.put table).EachCell property := by
  intro other member
  rcases List.mem_cons.1 member with rfl | member
  · exact new
  · exact each other (List.mem_of_mem_filter member)

namespace Database

/-! ## What a statement writes -/

/-- A statement has a value for a column of its table, in a row to be inserted or in an
assignment. -/
inductive Writes (database : Database) (parameters : List Value) :
    Statement → ColumnDeclaration → Value → Prop
  | insert {name : String} {columns : Option (List String)} {rows : List (List Expression)}
      {table : Table} {targets : List Table.Target} {row : List Expression}
      {target : Table.Target} {expression : Expression} {value : Value}
      (found : database.catalog.find? name = some table)
      (aimed : table.targets columns = .ok targets) (listed : row ∈ rows)
      (paired : (target, expression) ∈ targets.zip row)
      (resolved : expression.resolve parameters = .ok value) :
      Writes database parameters (.insert name columns rows) target.column value
  | update {name : String} {assignments : List Assignment} {filter : Option Filter}
      {table : Table} {assignment : Assignment} {target : Table.Target} {value : Value}
      (found : database.catalog.find? name = some table) (listed : assignment ∈ assignments)
      (aimed : table.target assignment.column = .ok target)
      (resolved : assignment.value.resolve parameters = .ok value) :
      Writes database parameters (.update name assignments filter) target.column value

variable {database changed : Database} {statement : Statement} {parameters : List Value}
  {effect : Effect} {property : String → ColumnDeclaration → Value → Prop}

/-- **A statement puts nothing into the tables but what it writes**, coerced to the types of the
columns, and NULL. -/
theorem Performs.eachCell (performs : database.Performs parameters statement changed effect)
    (each : database.catalog.EachCell property) (null : ∀ name column, property name column .null)
    (written : ∀ column value stored, database.Writes parameters statement column value →
      column.type.coerce value = .ok stored → property statement.table column stored) :
    changed.catalog.EachCell property := by
  cases performs with
  | createTable new passed => exact each.put fun row member => by cases member
  | dropTable found => exact fun table member => each table (List.mem_of_mem_filter member)
  | select found selected laidOut => exact each
  | insert found inserted =>
      have member := List.mem_of_find?_eq_some found
      have named := Catalog.name_of_find? found
      obtain ⟨targets, aimed, inserted⟩ := Except.bind_eq_ok.1 inserted
      obtain ⟨added, made, whole⟩ := Except.bind_eq_ok.1 inserted
      cases whole
      refine each.put fun row listed => ?_
      rcases List.mem_append.1 listed with old | new
      · exact each _ member row old
      · obtain ⟨expressions, inside, one⟩ := Except.exists_of_mem_mapM made new
        refine Table.eachCell_newRow (null _) (Table.targets_of aimed) ?_ one
        intro target expression value stored paired resolved stores
        rw [named]
        exact written _ value stored (.insert found aimed inside paired resolved) stores
  | update found assigned =>
      have member := List.mem_of_find?_eq_some found
      have named := Catalog.name_of_find? found
      rw [Table.update_eq] at assigned
      obtain ⟨values, coerced, assigned⟩ := Except.bind_eq_ok.1 assigned
      obtain ⟨test, tested, whole⟩ := Except.bind_eq_ok.1 assigned
      cases whole
      refine each.put fun row listed => ?_
      obtain ⟨old, inside, rfl⟩ := List.mem_map.1 listed
      split
      · refine Table.EachCell.assign (each _ member old inside) fun entry put column there => ?_
        obtain ⟨assignment, given, one⟩ := Except.exists_of_mem_mapM coerced put
        obtain ⟨target, aimed, one⟩ := Except.bind_eq_ok.1 one
        obtain ⟨stored, stores, whole⟩ := Except.bind_eq_ok.1 one
        cases whole
        obtain ⟨value, resolved, stores⟩ := Except.bind_eq_ok.1 stores
        cases (Table.target_of aimed).1.symm.trans there
        rw [named]
        exact written _ value stored (.update found given aimed resolved) stores
      · exact each _ member old inside
  | delete found deleted =>
      have member := List.mem_of_find?_eq_some found
      rw [Table.delete_eq] at deleted
      obtain ⟨test, tested, whole⟩ := Except.bind_eq_ok.1 deleted
      cases whole
      exact each.put fun row listed => each _ member row (List.mem_of_mem_filter listed)

/-- A statement that succeeds has coerced everything that it writes. -/
theorem Performs.coerced (performs : database.Performs parameters statement changed effect)
    {column : ColumnDeclaration} {value : Value}
    (writes : database.Writes parameters statement column value) :
    ∃ stored, column.type.coerce value = .ok stored := by
  cases performs with
  | insert known inserted =>
      cases writes with
      | insert found aimed listed paired resolved =>
          cases known.symm.trans found
          obtain ⟨targets, again, inserted⟩ := Except.bind_eq_ok.1 inserted
          cases aimed.symm.trans again
          obtain ⟨added, made, _⟩ := Except.bind_eq_ok.1 inserted
          obtain ⟨row, one⟩ := Except.exists_of_mapM_eq_ok made listed
          unfold Table.newRow at one
          split at one
          · cases one
          · obtain ⟨values, coerced, _⟩ := Except.bind_eq_ok.1 one
            obtain ⟨entry, one⟩ := Except.exists_of_mapM_eq_ok coerced paired
            obtain ⟨stored, stores, _⟩ := Except.bind_eq_ok.1 one
            obtain ⟨content, same, stores⟩ := Except.bind_eq_ok.1 stores
            cases resolved.symm.trans same
            exact ⟨stored, stores⟩
  | update known assigned =>
      cases writes with
      | update found listed aimed resolved =>
          cases known.symm.trans found
          obtain ⟨values, coerced, _⟩ := Except.bind_eq_ok.1 assigned
          obtain ⟨entry, one⟩ := Except.exists_of_mapM_eq_ok coerced listed
          obtain ⟨target, again, one⟩ := Except.bind_eq_ok.1 one
          cases aimed.symm.trans again
          obtain ⟨stored, stores, _⟩ := Except.bind_eq_ok.1 one
          obtain ⟨content, same, stores⟩ := Except.bind_eq_ok.1 stores
          cases resolved.symm.trans same
          exact ⟨stored, stores⟩
  | createTable => cases writes
  | dropTable => cases writes
  | select => cases writes
  | delete => cases writes

end Database

namespace Engine

/-! ## Requests that change tables -/

/-- What the tables of a database can be after a request: those of a new database, those that
there were before, or those that a statement left which the request ran. -/
inductive Descends (request : Request) (engine : Engine) (number : Nat) : Catalog → Prop
  | opened : Descends request engine number Catalog.empty
  | kept {catalog : Catalog}
      (before : (engine.databases.find? number).map (·.catalog) = some catalog) :
      Descends request engine number catalog
  | ran {home : Handle .database} {database changed : Database} {statement : Statement}
      {parameters : List Value} {effect : Effect} (here : home.number = number)
      (found : engine.database? (some home) = some database)
      (runs : request.Runs engine home statement parameters)
      (executed : database.execute statement parameters = .ok (changed, effect)) :
      Descends request engine number changed.catalog

/-- The tables of every database of an engine descend in one request from those of another. -/
def AllDescend (request : Request) (engine later : Engine) : Prop :=
  ∀ number database, later.databases.find? number = some database →
    Descends request engine number database.catalog

section Descends

variable {request : Request} {start before : Engine} {database changed : Database}

theorem descends_of_find? {number : Nat} (kept : start.databases.find? number = some database) :
    Descends request start number database.catalog :=
  .kept (by rw [kept, Option.map_some])

/-- A database is put in the place of another. -/
theorem AllDescend.setDatabase (descend : AllDescend request start before)
    {home : Handle .database} (descends : Descends request start home.number changed.catalog) :
    AllDescend request start (before.setDatabase home changed) := by
  intro number object kept
  rw [Engine.setDatabase, Registry.find?_modify] at kept
  split at kept
  · next same =>
      obtain ⟨_, _, rfl⟩ := Option.map_eq_some_iff.1 kept
      subst same
      exact descends
  · exact descend number object kept

theorem AllDescend.addDatabase (descend : AllDescend request start before)
    (empty : database.catalog = Catalog.empty) :
    AllDescend request start (before.addDatabase database).2 := by
  intro number object kept
  by_cases new : number = before.databases.nextNumber
  · rw [Engine.addDatabase, new, Registry.find?_add_next] at kept
    cases kept
    rw [empty]
    exact .opened
  · rw [Engine.addDatabase, Registry.find?_add_of_ne _ _ new] at kept
    exact descend number object kept

theorem AllDescend.removeDatabase (descend : AllDescend request start before)
    (handle : Handle .database) : AllDescend request start (before.removeDatabase handle) := by
  intro number object kept
  rw [Engine.removeDatabase, Registry.find?_remove] at kept
  split at kept
  · cases kept
  · exact descend number object kept

/-- **The tables of a database are changed by requests that run a statement on it**, and by no
others. -/
theorem descends_perform (request : Request) (start : Engine) :
    AllDescend request start (request.perform start) := by
  refine perform_property (AllDescend request start) (fun before after descend change => ?_)
    fun _ _ => descends_of_find?
  cases change with
  | addDatabase empty => exact descend.addDatabase empty
  | runStatement found runs executed =>
      exact descend.setDatabase (.ran rfl found runs executed)
  | setDatabase found _ catalog =>
      exact descend.setDatabase (catalog ▸ descend _ _ (follow_eq_some.1 found).2)
  | removeDatabase _ => exact descend.removeDatabase _
  | _ => exact descend

end Descends

/-! ## Every cell was written -/

/-- A request of a list ran a statement that had a value for a column of a table. -/
def Wrote (requests : List Request) (number : Nat) (name : String) (column : ColumnDeclaration)
    (value : Value) : Prop :=
  ∃ earlier request later, requests = earlier ++ request :: later ∧
    ∃ home database statement parameters changed effect,
      (after earlier).database? (some home) = some database ∧ home.number = number ∧
      request.Runs (after earlier) home statement parameters ∧
      database.execute statement parameters = .ok (changed, effect) ∧
      statement.table = name ∧ database.Writes parameters statement column value

theorem Wrote.append {requests : List Request} {number : Nat} {name : String}
    {column : ColumnDeclaration} {value : Value} (wrote : Wrote requests number name column value)
    (last : Request) : Wrote (requests ++ [last]) number name column value := by
  obtain ⟨earlier, request, later, rfl, written⟩ := wrote
  exact ⟨earlier, request, later ++ [last], by simp, written⟩

/-- **Every cell was written**: it is NULL, or a request ran a statement with a value for its
column, which was coerced to it. -/
theorem eachCell_after (requests : List Request) {number : Nat} {database : Database}
    (kept : (after requests).databases.find? number = some database) :
    database.catalog.EachCell fun name column stored => stored = .null ∨
      ∃ value, Wrote requests number name column value ∧
        column.type.coerce value = .ok stored := by
  induction requests using List.reverseRecOn generalizing database with
  | nil =>
      rw [after, List.foldl_nil, empty, Registry.find?_empty] at kept
      cases kept
  | append_singleton earlier last ih =>
      -- what was written earlier was written in the longer list
      have before {catalog : Catalog}
          (there : ((after earlier).databases.find? number).map (·.catalog) = some catalog) :
          catalog.EachCell fun name column stored => stored = .null ∨
            ∃ value, Wrote (earlier ++ [last]) number name column value ∧
              column.type.coerce value = .ok stored := by
        obtain ⟨old, found, rfl⟩ := Option.map_eq_some_iff.1 there
        intro table member row listed position column aimed
        refine (ih found table member row listed position column aimed).imp_right ?_
        rintro ⟨value, wrote, stores⟩
        exact ⟨value, wrote.append last, stores⟩
      have performed : after (earlier ++ [last]) = last.perform (after earlier) := by
        rw [after, List.foldl_append]
        rfl
      rw [performed] at kept
      have descends := descends_perform last (after earlier) number database kept
      generalize database.catalog = catalog at descends
      cases descends with
      | opened =>
          intro table member
          cases member
      | kept there => exact before there
      | @ran home old changed statement parameters effect here found runs executed =>
          have there : (after earlier).databases.find? number = some old :=
            here ▸ (follow_eq_some.1 found).2
          refine (Database.execute_eq_ok.1 executed).eachCell (before ?_) (fun _ _ => .inl rfl) ?_
          · rw [there, Option.map_some]
          · intro column value stored writes stores
            exact .inr ⟨value, ⟨earlier, last, [], rfl, home, old, statement, parameters, changed,
              effect, found, here, runs, executed, rfl, writes⟩, stores⟩

end Engine

end ColumnStore
