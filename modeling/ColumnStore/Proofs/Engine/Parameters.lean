import ColumnStore.Engine.Parameters
import ColumnStore.Proofs.Engine.Table
import ColumnStore.Proofs.Sql.Numbering

/-!
# The columns that placeholders are for

Every expression of a statement is inserted into a column, assigned to one or compared with one
(`Statement.columnsIn`); only behind the last column that an insertion fills there is none. The
parameters of a statement have the types of the columns that its placeholders are for, in the order
in which they are written (`Database.parameterTypes_eq_ok`). So there are as many parameters as
placeholders, unless a row of an insertion is too long (`Database.overfull_of_none_mem`).
-/

set_option autoImplicit false

namespace ColumnStore

/-! ## Columns by name and by place -/

namespace Table

variable {table : Table}

/-- The column with a name. -/
def column? (table : Table) (name : String) : Option ColumnDeclaration :=
  table.columns.find? (·.name = name)

/-- The column for a value in this place of a row: the one that is named in this place, or without
names the one that stands there. -/
def columnAt (table : Table) (names : Option (List String)) (place : Nat) :
    Option ColumnDeclaration :=
  match names with
  | some names => names[place]?.bind table.column?
  | none => table.columns[place]?

theorem column?_of_target {name : String} {target : Target}
    (found : table.target name = .ok target) : table.column? name = some target.column := by
  unfold Table.target at found
  split at found
  · next declaration position first =>
      cases found
      have unnumbered := List.find?_map (p := fun column : ColumnDeclaration => column.name = name)
        (f := Prod.fst) (l := table.columns.zipIdx)
      rw [List.zipIdx_map_fst] at unnumbered
      rw [column?, unnumbered]
      exact congrArg (Option.map Prod.fst) first
  · cases found

theorem columnAt_of_targets {names : Option (List String)} {targets : List Target}
    (aimed : table.targets names = .ok targets) (place : Nat) :
    table.columnAt names place = targets[place]?.map (·.column) := by
  cases names with
  | none =>
      cases aimed
      simp [columnAt, List.getElem?_map, List.getElem?_zipIdx, Function.comp_def]
  | some names =>
      have each := Except.mapM_eq_ok.1 aimed
      by_cases inside : place < names.length
      · have within : place < targets.length := each.length_eq ▸ inside
        have found : table.target names[place] = .ok targets[place] := each.get inside within
        rw [columnAt, List.getElem?_eq_getElem inside, List.getElem?_eq_getElem within]
        exact column?_of_target found
      · have beyond : targets.length ≤ place := each.length_eq ▸ Nat.le_of_not_lt inside
        rw [columnAt, List.getElem?_eq_none (Nat.le_of_not_lt inside),
          List.getElem?_eq_none beyond]
        rfl

/-- How many columns an insertion fills. -/
def filled (table : Table) (names : Option (List String)) : Nat :=
  (names.map List.length).getD table.columns.length

theorem length_targets {names : Option (List String)} {targets : List Target}
    (aimed : table.targets names = .ok targets) : targets.length = table.filled names := by
  cases names with
  | none =>
      cases aimed
      simp [filled]
  | some names => exact (Except.mapM_eq_ok.1 aimed).length_eq.symm

end Table

/-! ## What expressions are for -/

/-- An expression and the column that it is for, if it is for any. -/
abbrev ExpressionUse := Expression × Option ColumnDeclaration

namespace ExpressionUse

/-- The uses that have a column. -/
def withColumn (uses : List ExpressionUse) : List (Expression × ColumnDeclaration) :=
  uses.filterMap fun use => use.2.map (Prod.mk use.1)

/-- What the placeholders are for, in order. -/
def ofPlaceholders (uses : List ExpressionUse) : List (Option ColumnDeclaration) :=
  uses.filterMap fun use =>
    match use.1 with
    | .literal _ => none
    | .placeholder _ => some use.2

theorem withColumn_append (front back : List ExpressionUse) :
    withColumn (front ++ back) = withColumn front ++ withColumn back :=
  List.filterMap_append

theorem withColumn_cons {use : ExpressionUse} {column : ColumnDeclaration}
    (known : use.2 = some column) (rest : List ExpressionUse) :
    withColumn (use :: rest) = (use.1, column) :: withColumn rest := by
  rw [withColumn, List.filterMap_cons, known]
  rfl

theorem length_ofPlaceholders (uses : List ExpressionUse) :
    (ofPlaceholders uses).length = (Expression.holes (uses.map Prod.fst)).length := by
  induction uses with
  | nil => rfl
  | cons use rest ih =>
      obtain ⟨expression, column⟩ := use
      cases expression with
      | literal value => exact ih
      | placeholder index => exact congrArg Nat.succ ih

theorem sublist_withColumn (uses : List ExpressionUse) :
    ((withColumn uses).map Prod.fst).Sublist (uses.map Prod.fst) := by
  induction uses with
  | nil => exact .slnil
  | cons use rest ih =>
      obtain ⟨expression, column⟩ := use
      cases column with
      | none => exact ih.cons expression
      | some column => exact ih.cons_cons expression

end ExpressionUse

/-- What the expressions of a row are for. -/
def Table.usesOfRow (table : Table) (names : Option (List String)) (row : List Expression) :
    List ExpressionUse :=
  row.zipIdx.map fun entry => (entry.1, table.columnAt names entry.2)

/-- What the value of a filter is for. -/
def Table.usesOfFilter (table : Table) (filter : Option Filter) : List ExpressionUse :=
  filter.toList.map fun condition => (condition.value, table.column? condition.column)

/-- What the values of assignments are for. -/
def Table.usesOfAssignments (table : Table) (assignments : List Assignment) :
    List ExpressionUse :=
  assignments.map fun assignment => (assignment.value, table.column? assignment.column)

/-- What the expressions of a statement are for, run on a table. -/
def Statement.columnsIn (table : Table) : Statement → List ExpressionUse
  | createTable .. => []
  | dropTable _ => []
  | insert _ names rows => rows.flatMap (table.usesOfRow names)
  | select _ _ filter => table.usesOfFilter filter
  | update _ assignments filter =>
      table.usesOfAssignments assignments ++ table.usesOfFilter filter
  | delete _ filter => table.usesOfFilter filter

/-- Every expression of a statement is listed, in the order in which they are written. -/
theorem Statement.expressions_columnsIn (table : Table) (statement : Statement) :
    (statement.columnsIn table).map Prod.fst = statement.expressions := by
  have compared (filter : Option Filter) :
      (table.usesOfFilter filter).map Prod.fst = (filter.map (·.value)).toList := by
    cases filter <;> rfl
  cases statement with
  | createTable name columns => rfl
  | dropTable name => rfl
  | insert name names rows =>
      have row (row : List Expression) : (table.usesOfRow names row).map Prod.fst = row := by
        rw [Table.usesOfRow, List.map_map]
        exact List.zipIdx_map_fst 0 row
      simp only [columnsIn, expressions, List.map_flatMap, row, List.flatMap_id']
  | select name projection filter => exact compared filter
  | update name assignments filter =>
      rw [columnsIn, List.map_append, compared, Table.usesOfAssignments, List.map_map]
      rfl
  | delete name filter => exact compared filter

namespace Database

/-- What the expressions of a statement are for. -/
def columnsOf (database : Database) (statement : Statement) : List ExpressionUse :=
  ((database.catalog.find? statement.table).map statement.columnsIn).getD []

/-- The columns that the placeholders of a statement are for, in the order in which they are
written. One behind the last column that an insertion fills is for none. -/
def placeholderColumns (database : Database) (statement : Statement) :
    List (Option ColumnDeclaration) :=
  ExpressionUse.ofPlaceholders (database.columnsOf statement)

theorem columnsOf_createTable (database : Database) (name : String)
    (columns : List ColumnDeclaration) :
    database.columnsOf (.createTable name columns) = [] := by
  unfold columnsOf
  cases database.catalog.find? (Statement.createTable name columns).table <;> rfl

theorem columnsOf_dropTable (database : Database) (name : String) :
    database.columnsOf (.dropTable name) = [] := by
  unfold columnsOf
  cases database.catalog.find? (Statement.dropTable name).table <;> rfl

theorem columnsOf_of_table {database : Database} {statement : Statement} {table : Table}
    (found : database.catalog.table statement.table = .ok table) :
    database.columnsOf statement = statement.columnsIn table := by
  rw [columnsOf, Catalog.table_eq_ok.1 found]
  rfl

end Database

/-! ## Types of placeholders -/

namespace PlaceholderTypes

/-- A placeholder behind all that have a type. -/
theorem note_of_lt {types : PlaceholderTypes} {index : Nat}
    (before : ∀ entry ∈ types, entry.1 < index) (type : DeclaredType) :
    types.note index type = types ++ [(index, type)] := by
  induction types with
  | nil => rfl
  | cons entry rest ih =>
      have first := before entry List.mem_cons_self
      rw [note, if_neg (by omega), if_neg (by omega),
        ih fun other member => before other (List.mem_cons_of_mem _ member)]
      rfl

/-- The placeholders among expressions, with the types of the columns they are for. -/
def ofUses (uses : List (Expression × ColumnDeclaration)) : PlaceholderTypes :=
  uses.filterMap fun use =>
    match use.1 with
    | .literal _ => none
    | .placeholder index => some (index, use.2.type)

/-- Give expressions the types of the columns they are for. -/
def noteAll (types : PlaceholderTypes) (uses : List (Expression × ColumnDeclaration)) :
    PlaceholderTypes :=
  uses.foldl (fun types use => types.noteExpression use.2 use.1) types

theorem keys_ofUses (uses : List (Expression × ColumnDeclaration)) :
    (ofUses uses).map Prod.fst = Expression.holes (uses.map Prod.fst) := by
  induction uses with
  | nil => rfl
  | cons use rest ih =>
      obtain ⟨expression, column⟩ := use
      cases expression with
      | literal value => exact ih
      | placeholder index => exact congrArg (index :: ·) ih

theorem types_ofUses (uses : List ExpressionUse) :
    (ofUses (ExpressionUse.withColumn uses)).map Prod.snd =
      (ExpressionUse.ofPlaceholders uses).reduceOption.map (·.type) := by
  induction uses with
  | nil => rfl
  | cons use rest ih =>
      obtain ⟨expression, column⟩ := use
      cases expression with
      | literal value => cases column <;> exact ih
      | placeholder index =>
          cases column with
          | none => exact ih
          | some column => exact congrArg (column.type :: ·) ih

/-- Placeholders that come in order are noted in order. -/
theorem noteAll_eq {uses : List (Expression × ColumnDeclaration)} {types : PlaceholderTypes}
    (increasing : (types.map Prod.fst ++ Expression.holes (uses.map Prod.fst)).Pairwise (· < ·)) :
    types.noteAll uses = types ++ ofUses uses := by
  induction uses generalizing types with
  | nil => exact (List.append_nil _).symm
  | cons use rest ih =>
      obtain ⟨expression, column⟩ := use
      cases expression with
      | literal value => exact ih increasing
      | placeholder index =>
          have appended : types.note index column.type = types ++ [(index, column.type)] := by
            apply note_of_lt
            intro entry member
            exact (List.pairwise_append.1 increasing).2.2 entry.1 (List.mem_map_of_mem member)
              index List.mem_cons_self
          have later : (types ++ [(index, column.type)]).noteAll rest =
              types ++ [(index, column.type)] ++ ofUses rest :=
            ih (by simpa [Expression.holes] using increasing)
          show (types.note index column.type).noteAll rest = _
          rw [appended, later, List.append_assoc]
          rfl

theorem noteAll_append (types : PlaceholderTypes)
    (front back : List (Expression × ColumnDeclaration)) :
    types.noteAll (front ++ back) = (types.noteAll front).noteAll back :=
  List.foldl_append

variable {table : Table} {types after : PlaceholderTypes}

/-- A row is read along with the columns that are named. -/
theorem withColumn_usesOfRow {names : Option (List String)} {targets : List Table.Target}
    (aimed : table.targets names = .ok targets) (row : List Expression) :
    ExpressionUse.withColumn (table.usesOfRow names row) =
      (targets.zip row).map fun pair => (pair.2, pair.1.column) := by
  have each (start : Nat) (later : List Table.Target)
      (placed : ∀ place, table.columnAt names (start + place) = later[place]?.map (·.column)) :
      (row.zipIdx start).filterMap
          (fun entry => (table.columnAt names entry.2).map (Prod.mk entry.1)) =
        (later.zip row).map fun pair => (pair.2, pair.1.column) := by
    induction row generalizing start later with
    | nil => simp
    | cons expression rest ih =>
        have first := placed 0
        rw [Nat.add_zero] at first
        cases later with
        | nil =>
            have others := ih (start + 1) [] fun place => by
              have beyond := placed (place + 1)
              rwa [show start + (place + 1) = start + 1 + place by omega] at beyond
            rw [List.zipIdx_cons, List.filterMap_cons, first]
            exact others
        | cons target later =>
            have others := ih (start + 1) later fun place => by
              have next := placed (place + 1)
              rwa [show start + (place + 1) = start + 1 + place by omega] at next
            rw [List.zipIdx_cons, List.filterMap_cons, first]
            exact congrArg ((expression, target.column) :: ·) others
  rw [ExpressionUse.withColumn, Table.usesOfRow, List.filterMap_map]
  exact each 0 targets fun place => by rw [Nat.zero_add, Table.columnAt_of_targets aimed]

/-- The rows of an insertion. -/
theorem foldl_noteRow {names : Option (List String)} {targets : List Table.Target}
    (aimed : table.targets names = .ok targets) (rows : List (List Expression))
    (types : PlaceholderTypes) :
    rows.foldl (fun types row => types.noteRow targets row) types =
      types.noteAll (ExpressionUse.withColumn (rows.flatMap (table.usesOfRow names))) := by
  induction rows generalizing types with
  | nil => rfl
  | cons row rest ih =>
      have one : types.noteRow targets row =
          types.noteAll (ExpressionUse.withColumn (table.usesOfRow names row)) := by
        rw [withColumn_usesOfRow aimed, noteAll, List.foldl_map]
        rfl
      rw [List.foldl_cons, ih, List.flatMap_cons, ExpressionUse.withColumn_append, noteAll_append,
        one]

theorem noteFilter_eq_ok {filter : Option Filter}
    (noted : types.noteFilter table filter = .ok after) :
    after = types.noteAll (ExpressionUse.withColumn (table.usesOfFilter filter)) ∧
      ∀ use ∈ table.usesOfFilter filter, use.2.isSome := by
  cases filter with
  | none =>
      cases noted
      exact ⟨rfl, List.forall_mem_nil _⟩
  | some condition =>
      obtain ⟨target, found, whole⟩ := Except.bind_eq_ok.1 noted
      cases whole
      have column := Table.column?_of_target found
      refine ⟨?_, List.forall_mem_singleton.2 (Option.isSome_iff_exists.2 ⟨_, column⟩)⟩
      show types.noteExpression target.column condition.value =
        types.noteAll (ExpressionUse.withColumn [(condition.value, table.column? condition.column)])
      rw [ExpressionUse.withColumn_cons column]
      rfl

theorem noteAssignments_eq_ok {assignments : List Assignment}
    (noted : types.noteAssignments table assignments = .ok after) :
    after = types.noteAll (ExpressionUse.withColumn (table.usesOfAssignments assignments)) ∧
      ∀ use ∈ table.usesOfAssignments assignments, use.2.isSome := by
  induction assignments generalizing types with
  | nil =>
      cases noted
      exact ⟨rfl, List.forall_mem_nil _⟩
  | cons first rest ih =>
      obtain ⟨target, found, noted⟩ := Except.bind_eq_ok.1 noted
      obtain ⟨rfl, others⟩ := ih noted
      have column := Table.column?_of_target found
      refine ⟨?_, List.forall_mem_cons.2 ⟨Option.isSome_iff_exists.2 ⟨_, column⟩, others⟩⟩
      show _ = types.noteAll (ExpressionUse.withColumn
        ((first.value, table.column? first.column) :: table.usesOfAssignments rest))
      rw [ExpressionUse.withColumn_cons column]
      rfl

end PlaceholderTypes

/-! ## The parameters of a statement -/

/-- An insertion with a row that has more values than there are columns to fill. -/
def Statement.Overfull (statement : Statement) (database : Database) : Prop :=
  ∃ name names rows table, statement = .insert name names rows ∧
    database.catalog.find? name = some table ∧ ∃ row ∈ rows, table.filled names < row.length

/-- Such an insertion is not executed, whatever the values. -/
theorem Statement.Overfull.not_executed {statement : Statement} {database : Database}
    (overfull : statement.Overfull database) (values : List Value) (answer : Database × Effect) :
    database.execute statement values ≠ .ok answer := by
  obtain ⟨name, names, rows, table, rfl, there, row, member, long⟩ := overfull
  intro executed
  obtain ⟨other, found, executed⟩ := Except.bind_eq_ok.1 executed
  obtain rfl : other = table :=
    Option.some.inj ((Catalog.table_eq_ok.1 found).symm.trans there)
  obtain ⟨changed, inserted, _⟩ := Except.bind_eq_ok.1 executed
  obtain ⟨targets, aimed, inserted⟩ := Except.bind_eq_ok.1 inserted
  obtain ⟨made, each, _⟩ := Except.bind_eq_ok.1 inserted
  obtain ⟨cells, one⟩ := Except.exists_of_mapM_eq_ok each member
  have width := Table.length_targets aimed
  rw [Table.newRow, if_pos (by omega)] at one
  cases one

namespace Database

variable {database : Database} {statement : Statement} {types : PlaceholderTypes}

/-- The placeholders get the types of the columns they are for, in the order in which they are
written. -/
theorem placeholderTypes_eq_ok (typed : database.placeholderTypes statement = .ok types) :
    types = PlaceholderTypes.noteAll []
      (ExpressionUse.withColumn (database.columnsOf statement)) := by
  cases statement with
  | createTable name columns =>
      cases typed
      rw [columnsOf_createTable]
      rfl
  | dropTable name =>
      cases typed
      rw [columnsOf_dropTable]
      rfl
  | insert name names rows =>
      obtain ⟨table, found, typed⟩ := Except.bind_eq_ok.1 typed
      obtain ⟨targets, aimed, whole⟩ := Except.bind_eq_ok.1 typed
      cases whole
      rw [columnsOf_of_table found, PlaceholderTypes.foldl_noteRow aimed]
      rfl
  | select name projection filter =>
      obtain ⟨table, found, typed⟩ := Except.bind_eq_ok.1 typed
      rw [columnsOf_of_table found]
      exact (PlaceholderTypes.noteFilter_eq_ok typed).1
  | update name assignments filter =>
      obtain ⟨table, found, typed⟩ := Except.bind_eq_ok.1 typed
      obtain ⟨middle, assigned, typed⟩ := Except.bind_eq_ok.1 typed
      obtain ⟨rfl, _⟩ := PlaceholderTypes.noteAssignments_eq_ok assigned
      rw [columnsOf_of_table found, (PlaceholderTypes.noteFilter_eq_ok typed).1,
        ← PlaceholderTypes.noteAll_append, ← ExpressionUse.withColumn_append]
      rfl
  | delete name filter =>
      obtain ⟨table, found, typed⟩ := Except.bind_eq_ok.1 typed
      rw [columnsOf_of_table found]
      exact (PlaceholderTypes.noteFilter_eq_ok typed).1

/-- Every expression of a statement whose placeholders get types is listed. -/
theorem expressions_columnsOf (typed : database.placeholderTypes statement = .ok types) :
    (database.columnsOf statement).map Prod.fst = statement.expressions := by
  have listed {table : Table} (found : database.catalog.table statement.table = .ok table) :
      (database.columnsOf statement).map Prod.fst = statement.expressions := by
    rw [columnsOf_of_table found, Statement.expressions_columnsIn]
  cases statement with
  | createTable name columns =>
      rw [columnsOf_createTable]
      rfl
  | dropTable name =>
      rw [columnsOf_dropTable]
      rfl
  | insert name names rows => exact listed (Except.bind_eq_ok.1 typed).choose_spec.1
  | select name projection filter => exact listed (Except.bind_eq_ok.1 typed).choose_spec.1
  | update name assignments filter => exact listed (Except.bind_eq_ok.1 typed).choose_spec.1
  | delete name filter => exact listed (Except.bind_eq_ok.1 typed).choose_spec.1

/-- A place of a row for which there is no column. -/
theorem overfull_of_usesOfRow {name : String} {names : Option (List String)}
    {rows : List (List Expression)} {table : Table} {targets : List Table.Target}
    (there : database.catalog.find? name = some table)
    (aimed : table.targets names = .ok targets) {row : List Expression} (member : row ∈ rows)
    {expression : Expression} (unused : (expression, none) ∈ table.usesOfRow names row) :
    (Statement.insert name names rows).Overfull database := by
  obtain ⟨⟨other, place⟩, inside, same⟩ := List.mem_map.1 unused
  obtain ⟨rfl, absent⟩ := Prod.mk.inj same
  rw [Table.columnAt_of_targets aimed, Option.map_eq_none_iff, List.getElem?_eq_none_iff,
    Table.length_targets aimed] at absent
  have placed : row[place]? = some other := List.mem_zipIdx_iff_getElem?.1 inside
  obtain ⟨within, _⟩ := List.getElem?_eq_some_iff.1 placed
  exact ⟨name, names, rows, table, rfl, there, row, member, Nat.lt_of_le_of_lt absent within⟩

/-- **Only in a row that is too long a placeholder is for no column.** -/
theorem overfull_of_none_mem (typed : database.placeholderTypes statement = .ok types)
    (unused : none ∈ database.placeholderColumns statement) : statement.Overfull database := by
  obtain ⟨⟨expression, column⟩, member, same⟩ := List.mem_filterMap.1 unused
  obtain rfl : column = none := by
    cases expression with
    | literal value => cases same
    | placeholder index => exact Option.some.inj same
  have aimed {table : Table} (found : database.catalog.table statement.table = .ok table) :
      (expression, none) ∈ statement.columnsIn table :=
    columnsOf_of_table found ▸ member
  cases statement with
  | createTable name columns =>
      rw [columnsOf_createTable] at member
      cases member
  | dropTable name =>
      rw [columnsOf_dropTable] at member
      cases member
  | insert name names rows =>
      obtain ⟨table, found, typed⟩ := Except.bind_eq_ok.1 typed
      obtain ⟨targets, known, _⟩ := Except.bind_eq_ok.1 typed
      obtain ⟨row, inside, unused⟩ := List.mem_flatMap.1 (aimed found)
      exact overfull_of_usesOfRow (Catalog.table_eq_ok.1 found) known inside unused
  | select name projection filter =>
      obtain ⟨table, found, typed⟩ := Except.bind_eq_ok.1 typed
      exact nomatch (PlaceholderTypes.noteFilter_eq_ok typed).2 _ (aimed found)
  | update name assignments filter =>
      obtain ⟨table, found, typed⟩ := Except.bind_eq_ok.1 typed
      obtain ⟨middle, assigned, typed⟩ := Except.bind_eq_ok.1 typed
      rcases List.mem_append.1 (aimed found) with front | back
      · exact nomatch (PlaceholderTypes.noteAssignments_eq_ok assigned).2 _ front
      · exact nomatch (PlaceholderTypes.noteFilter_eq_ok typed).2 _ back
  | delete name filter =>
      obtain ⟨table, found, typed⟩ := Except.bind_eq_ok.1 typed
      exact nomatch (PlaceholderTypes.noteFilter_eq_ok typed).2 _ (aimed found)

/-- The types are listed in the order of the placeholders, which are some of the statement's. -/
theorem ofUses_of_placeholderTypes (typed : database.placeholderTypes statement = .ok types)
    (inOrder : statement.placeholders.Pairwise (· < ·)) :
    types = PlaceholderTypes.ofUses (ExpressionUse.withColumn (database.columnsOf statement)) ∧
      (types.map Prod.fst).Sublist statement.placeholders := by
  have part : (Expression.holes ((ExpressionUse.withColumn
      (database.columnsOf statement)).map Prod.fst)).Sublist statement.placeholders := by
    rw [Statement.placeholders_eq, ← expressions_columnsOf typed]
    exact (ExpressionUse.sublist_withColumn _).filterMap _
  have listed : types =
      PlaceholderTypes.ofUses (ExpressionUse.withColumn (database.columnsOf statement)) := by
    rw [placeholderTypes_eq_ok typed,
      PlaceholderTypes.noteAll_eq (by simpa using inOrder.sublist part), List.nil_append]
  exact ⟨listed, by rwa [listed, PlaceholderTypes.keys_ofUses]⟩

/-- **The parameters have the types of the columns that the placeholders are for**, in the order
in which they are written; a placeholder that is for none is no parameter. -/
theorem parameterTypes_eq_ok {parameters : List DeclaredType}
    (typed : database.parameterTypes statement = .ok parameters)
    (inOrder : statement.placeholders.Pairwise (· < ·)) :
    parameters = (database.placeholderColumns statement).reduceOption.map (·.type) ∧
      (database.placeholderColumns statement).length = statement.placeholders.length ∧
      (none ∈ database.placeholderColumns statement → statement.Overfull database) := by
  obtain ⟨types, noted, rest⟩ := Except.bind_eq_ok.1 typed
  obtain ⟨⟨⟩, _, whole⟩ := Except.bind_eq_ok.1 rest
  cases whole
  refine ⟨?_, ?_, overfull_of_none_mem noted⟩
  · rw [(ofUses_of_placeholderTypes noted inOrder).1, PlaceholderTypes.types_ofUses]
    rfl
  · rw [placeholderColumns, ExpressionUse.length_ofPlaceholders, expressions_columnsOf noted]
    rfl

end Database

end ColumnStore
