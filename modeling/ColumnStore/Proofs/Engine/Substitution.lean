import ColumnStore.Proofs.Engine.Parameters

/-!
# Literals in the place of placeholders

A statement with literals for its placeholders does what the statement does with values for them
that coerce alike (`Database.execute_instantiate`). Which column a value is coerced for is decided
when the statement is prepared: if every placeholder is a parameter, each has the type of the
column it is used for (`Database.type_of_usedFor`).
-/

set_option autoImplicit false

namespace ColumnStore

/-! ## Instances of a statement -/

/-- The literal for a placeholder, if there is one. -/
def Expression.instantiate (literals : List Value) : Expression → Expression
  | literal value => .literal value
  | placeholder index =>
      match literals[index]? with
      | some value => .literal value
      | none => .placeholder index

/-- The filter with literals for its placeholder. -/
def Filter.instantiate (literals : List Value) (filter : Filter) : Filter :=
  { filter with value := filter.value.instantiate literals }

/-- The assignment with literals for its placeholder. -/
def Assignment.instantiate (literals : List Value) (assignment : Assignment) : Assignment :=
  { assignment with value := assignment.value.instantiate literals }

namespace Statement

/-- The statement with literals for its placeholders. -/
def instantiate (literals : List Value) : Statement → Statement
  | createTable table columns => .createTable table columns
  | dropTable table => .dropTable table
  | insert table columns rows =>
      .insert table columns (rows.map (·.map (Expression.instantiate literals)))
  | select table projection filter =>
      .select table projection (filter.map (Filter.instantiate literals))
  | update table assignments filter =>
      .update table (assignments.map (Assignment.instantiate literals))
        (filter.map (Filter.instantiate literals))
  | delete table filter => .delete table (filter.map (Filter.instantiate literals))

/-- Run on a table, the filter compares a column with an expression. -/
def ComparedBy (filter : Option Filter) (table : Table) (target : Table.Target)
    (expression : Expression) : Prop :=
  ∃ condition, filter = some condition ∧ table.target condition.column = .ok target ∧
    condition.value = expression

/-- Run on a table, the statement uses an expression for a column. -/
def UsedFor (statement : Statement) (table : Table) (target : Table.Target)
    (expression : Expression) : Prop :=
  match statement with
  | createTable .. => False
  | dropTable _ => False
  | insert _ columns rows =>
      ∃ targets row, table.targets columns = .ok targets ∧ row ∈ rows ∧
        (target, expression) ∈ targets.zip row
  | select _ _ filter => ComparedBy filter table target expression
  | update _ assignments filter =>
      (∃ assignment ∈ assignments, table.target assignment.column = .ok target ∧
        assignment.value = expression) ∨ ComparedBy filter table target expression
  | delete _ filter => ComparedBy filter table target expression

end Statement

/-! ## The types of parameters -/

/-- An expression that is used for a column is for it. -/
theorem Table.mem_withColumn_of_comparedBy {table : Table} {filter : Option Filter}
    {target : Target} {expression : Expression}
    (compared : Statement.ComparedBy filter table target expression) :
    (expression, target.column) ∈ ExpressionUse.withColumn (table.usesOfFilter filter) := by
  obtain ⟨condition, rfl, aimed, rfl⟩ := compared
  exact List.mem_filterMap.2 ⟨_, List.mem_singleton_self _,
    congrArg (Option.map (Prod.mk condition.value)) (column?_of_target aimed)⟩

theorem Statement.mem_withColumn_of_usedFor {statement : Statement} {table : Table}
    {target : Table.Target} {expression : Expression}
    (used : statement.UsedFor table target expression) :
    (expression, target.column) ∈ ExpressionUse.withColumn (statement.columnsIn table) := by
  cases statement with
  | createTable name columns => exact used.elim
  | dropTable name => exact used.elim
  | insert name names rows =>
      obtain ⟨targets, row, aimed, inside, member⟩ := used
      have read : (expression, target.column) ∈
          ExpressionUse.withColumn (table.usesOfRow names row) := by
        rw [PlaceholderTypes.withColumn_usesOfRow aimed]
        exact List.mem_map_of_mem member
      obtain ⟨use, placed, known⟩ := List.mem_filterMap.1 read
      exact List.mem_filterMap.2 ⟨use, List.mem_flatMap.2 ⟨row, inside, placed⟩, known⟩
  | select name projection filter => exact Table.mem_withColumn_of_comparedBy used
  | update name assignments filter =>
      rw [columnsIn, ExpressionUse.withColumn_append]
      rcases used with ⟨assignment, inside, aimed, rfl⟩ | compared
      · exact List.mem_append_left _ (List.mem_filterMap.2 ⟨_, List.mem_map_of_mem inside,
          congrArg (Option.map (Prod.mk assignment.value)) (Table.column?_of_target aimed)⟩)
      · exact List.mem_append_right _ (Table.mem_withColumn_of_comparedBy compared)
  | delete name filter => exact Table.mem_withColumn_of_comparedBy used

namespace Database

variable {database : Database} {statement : Statement} {types : PlaceholderTypes}

/-- **If every placeholder is a parameter, each has the type of the column it is used for.** -/
theorem type_of_usedFor {parameters : List DeclaredType} {count : Nat}
    (typed : database.parameterTypes statement = .ok parameters)
    (numbered : statement.placeholders = List.range count) (complete : parameters.length = count)
    {table : Table} (found : database.catalog.table statement.table = .ok table)
    {target : Table.Target} {index : Nat}
    (used : statement.UsedFor table target (.placeholder index)) :
    parameters[index]? = some target.column.type := by
  obtain ⟨types, noted, rest⟩ := Except.bind_eq_ok.1 typed
  obtain ⟨⟨⟩, _, whole⟩ := Except.bind_eq_ok.1 rest
  cases whole
  obtain ⟨listed, part⟩ := ofUses_of_placeholderTypes noted (numbered ▸ List.pairwise_lt_range)
  rw [numbered] at part
  -- as many placeholders as there are in the statement: they are all of them, in order
  have keys : types.map Prod.fst = List.range count := by
    apply part.eq_of_length
    rw [List.length_map, List.length_range, ← complete, List.length_map]
  have member : (index, target.column.type) ∈ types := by
    rw [listed, columnsOf_of_table found]
    exact List.mem_filterMap.2 ⟨_, Statement.mem_withColumn_of_usedFor used, rfl⟩
  obtain ⟨position, there⟩ := List.getElem?_of_mem member
  have key : (List.range count)[position]? = some index := by
    rw [← keys, List.getElem?_map, there]
    rfl
  obtain ⟨_, rfl⟩ := List.getElem?_eq_some_iff.1 key
  rw [List.getElem_range, List.getElem?_map, there]
  rfl

end Database

/-! ## Running an instance -/

/-- Whenever the statement uses an expression for a column of the table, its value and the literal
in its place coerce alike. -/
def Statement.Matches (statement : Statement) (table : Table) (recorded literals : List Value) :
    Prop :=
  ∀ target expression, statement.UsedFor table target expression →
    Except.Alike (target.coerce recorded expression)
      (target.coerce [] (expression.instantiate literals))

namespace Table

variable {table : Table} {recorded literals : List Value}

theorem test_instantiate {filter : Option Filter}
    (each : ∀ target expression, Statement.ComparedBy filter table target expression →
      Except.Alike (target.coerce recorded expression)
        (target.coerce [] (expression.instantiate literals))) :
    Except.Alike (table.test filter recorded)
      (table.test (filter.map (Filter.instantiate literals)) []) := by
  cases filter with
  | none => exact .refl _
  | some condition =>
      refine Except.Alike.bind_self fun target found => ?_
      have used : Statement.ComparedBy (some condition) table target condition.value :=
        ⟨condition, rfl, found, rfl⟩
      exact (each target condition.value used).bind fun wanted => .refl _

theorem newRow_instantiate {targets : List Target} {row : List Expression}
    (each : ∀ pair ∈ targets.zip row, Except.Alike (pair.1.coerce recorded pair.2)
      (pair.1.coerce [] (pair.2.instantiate literals))) :
    Except.Alike (table.newRow targets recorded row)
      (table.newRow targets [] (row.map (Expression.instantiate literals))) := by
  have coerced : Except.Alike (coerceAll recorded (targets.zip row))
      (coerceAll [] (targets.zip (row.map (Expression.instantiate literals)))) := by
    rw [List.zip_map_right]
    apply Except.Alike.mapM
    rw [List.forall₂_map_right_iff, List.forall₂_same]
    exact fun pair member => (each pair member).bind fun value => .ok _
  unfold newRow
  rw [List.length_map]
  split
  · exact .refl _
  · exact coerced.bind fun values => .ok _

theorem insert_instantiate {name : String} {columns : Option (List String)}
    {rows : List (List Expression)}
    (matched : (Statement.insert name columns rows).Matches table recorded literals) :
    Except.Alike (table.insert columns rows recorded)
      (table.insert columns (rows.map (·.map (Expression.instantiate literals))) []) := by
  refine Except.Alike.bind_self fun targets aimed => ?_
  refine Except.Alike.bind (Except.Alike.mapM ?_) fun made => .ok _
  rw [List.forall₂_map_right_iff, List.forall₂_same]
  intro row inside
  apply newRow_instantiate
  rintro ⟨target, expression⟩ member
  exact matched target expression ⟨targets, row, aimed, inside, member⟩

theorem update_instantiate {name : String} {assignments : List Assignment}
    {filter : Option Filter}
    (matched : (Statement.update name assignments filter).Matches table recorded literals) :
    Except.Alike (table.update assignments filter recorded)
      (table.update (assignments.map (Assignment.instantiate literals))
        (filter.map (Filter.instantiate literals)) []) := by
  refine Except.Alike.bind (Except.Alike.mapM ?_) fun values => ?_
  · rw [List.forall₂_map_right_iff, List.forall₂_same]
    intro assignment inside
    refine Except.Alike.bind_self fun target found => ?_
    have used := matched target assignment.value (.inl ⟨assignment, inside, found, rfl⟩)
    exact used.bind fun value => .ok _
  · exact (test_instantiate fun target expression compared =>
      matched target expression (.inr compared)).bind fun test => .ok _

theorem delete_instantiate {name : String} {filter : Option Filter}
    (matched : (Statement.delete name filter).Matches table recorded literals) :
    Except.Alike (table.delete filter recorded)
      (table.delete (filter.map (Filter.instantiate literals)) []) :=
  (test_instantiate matched).bind fun _ => .ok _

theorem select_instantiate {name : String} {projection : Option (List String)}
    {filter : Option Filter}
    (matched : (Statement.select name projection filter).Matches table recorded literals) :
    Except.Alike (table.select projection filter recorded)
      (table.select projection (filter.map (Filter.instantiate literals)) []) :=
  Except.Alike.bind_self fun _ _ => (test_instantiate matched).bind fun _ => .ok _

end Table

/-- **A statement with literals in the place of its placeholders does the same.** -/
theorem Database.execute_instantiate {database : Database} {statement : Statement}
    {recorded literals : List Value}
    (matched : ∀ table, database.catalog.table statement.table = .ok table →
      statement.Matches table recorded literals) :
    Except.Alike (database.execute statement recorded)
      (database.execute (statement.instantiate literals) []) := by
  cases statement with
  | createTable name columns => exact .refl _
  | dropTable name => exact .refl _
  | insert name columns rows =>
      refine Except.Alike.bind_self fun table found => ?_
      exact (Table.insert_instantiate (matched table found)).bind fun answer => .ok _
  | select name projection filter =>
      refine Except.Alike.bind_self fun table found => ?_
      exact (Table.select_instantiate (matched table found)).bind fun answer => .refl _
  | update name assignments filter =>
      refine Except.Alike.bind_self fun table found => ?_
      exact (Table.update_instantiate (matched table found)).bind fun answer => .ok _
  | delete name filter =>
      refine Except.Alike.bind_self fun table found => ?_
      exact (Table.delete_instantiate (matched table found)).bind fun answer => .ok _

end ColumnStore
