import ColumnStore.Proofs.Engine.Portable
import ColumnStore.Proofs.Engine.Results

/-!
# When queries are refused

Laying out a column can fail in many ways: the layout may have no tag for its type, and its name
or a text in one of its cells may have a NUL. None of this happens to the rows of a well-formed
table, nor to the description of a statement about one. So a query is refused only for what it
says (`Database.RefusesQuery`): a table or a column that does not exist, a placeholder without a
value, or a value that cannot be coerced to the type of the column it is compared with. Preparing
one is only refused for the tables and columns it names (`Database.Lacks`).

Main results: `Database.failsFor_execute_select` and `Database.failsFor_prepare_select`.
-/

set_option autoImplicit false

namespace ColumnStore

/-! ## Laying out columns -/

/-- Only the widest integers can be refused. -/
theorem DeclaredType.checkLayout_eq_ok {type : DeclaredType} {layout : TagLayout} :
    type.checkLayout layout = .ok () ↔
      ¬(type.storage = .integer .int128 ∧ !layout.hasInt128) := by
  unfold checkLayout
  split
  · next refused =>
      constructor
      · intro carried
        cases type <;> cases carried
      · exact fun other => absurd refused other
  · next fits => exact iff_of_true rfl fits

namespace OutputColumn

variable {layout : TagLayout} {type : DeclaredType} {column : OutputColumn} {values : List Value}

theorem exists_terminated {text : String} (free : NulFree text.toList) :
    ∃ native, terminated text = .ok native := by
  obtain ⟨native, handed, _⟩ := NativeText.exists_ofString? free
  exact ⟨native, by rw [terminated, handed]⟩

/-- A type that the layout can carry has a tag. -/
theorem exists_tag (carried : type.checkLayout layout = .ok ()) :
    ∃ tag, OutputColumn.tag layout type = .ok tag := by
  obtain ⟨tag, encoded⟩ : ∃ tag, layout.encode type.storage = .ok tag := by
    by_cases portable : type.storage.Portable
    · exact TagLayout.exists_encode portable layout
    · have widest : type.storage = .integer .int128 := not_not.1 portable
      -- the widest integers are only carried by a layout that has a tag for them
      obtain ⟨_ | _⟩ := layout
      · exact absurd ⟨widest, rfl⟩ (DeclaredType.checkLayout_eq_ok.1 carried)
      · exact ⟨_, rfl⟩
  exact ⟨tag, by rw [OutputColumn.tag, encoded]⟩

/-- Of the boxed cells only texts are checked, and the stored ones have no NUL. -/
theorem exists_boxedCell {kind : BoxedKind} {value : Value}
    (storage : type.storage = .boxed kind) (stores : type.Stores value) :
    ∃ cell, boxedCell kind value = .ok cell := by
  cases type with
  | varchar limit =>
      cases storage
      cases value with
      | null => exact ⟨none, rfl⟩
      | str text =>
          obtain ⟨native, handed⟩ := exists_terminated stores
          exact ⟨some native, Except.map_eq_ok.2 ⟨native, handed, rfl⟩⟩
      | _ => exact stores.elim
  | boolean => cases storage
  | integer => cases storage
  | real => cases storage
  | double => cases storage
  | decimal => cases storage
  | _ =>
      cases storage
      cases value <;> exact ⟨_, rfl⟩

theorem exists_cells (stores : ∀ value ∈ values, column.type.Stores value) :
    ∃ cells, column.cells values = .ok cells := by
  cases storage : column.type.storage with
  | fixed kind => exact ⟨_, by rw [cells, storage]⟩
  | boxed kind =>
      obtain ⟨list, each⟩ := Except.exists_mapM_eq_ok fun value member =>
        exists_boxedCell storage (stores value member)
      refine ⟨.boxed kind (.ofBoxed kind list), ?_⟩
      rw [cells, storage]
      exact Except.bind_eq_ok.2 ⟨list, each, rfl⟩
  | unknown => exact absurd storage (storage_ne_unknown _)

/-- A column that the layout can carry, and whose name can be handed over. -/
structure Sound (layout : TagLayout) (column : OutputColumn) : Prop where
  carried : column.type.checkLayout layout = .ok ()
  named : NulFree column.name.toList

/-- **A column is laid out, whatever values of its type are stored.** -/
theorem exists_descriptor (sound : column.Sound layout)
    (stores : ∀ value ∈ values, column.type.Stores value) :
    ∃ descriptor, column.descriptor layout values = .ok descriptor := by
  obtain ⟨tag, tagged⟩ := exists_tag sound.carried
  obtain ⟨name, named⟩ := exists_terminated sound.named
  obtain ⟨cells, filled⟩ := exists_cells stores
  exact ⟨_, Except.bind_eq_ok.2 ⟨(), sound.carried, Except.bind_eq_ok.2 ⟨tag, tagged,
    Except.bind_eq_ok.2 ⟨name, named, Except.bind_eq_ok.2 ⟨cells, filled, rfl⟩⟩⟩⟩⟩

end OutputColumn

/-- **Rows are laid out**, if each column stores what is in its place. -/
theorem NativeResult.exists_ofRows {layout : TagLayout} {name : String}
    {columns : List OutputColumn} {rows : List Row} (named : NulFree name.toList)
    (sound : ∀ column ∈ columns, column.Sound layout)
    (stores : ∀ (index : Nat) (column : OutputColumn), columns[index]? = some column →
      ∀ row ∈ rows, column.type.Stores (Table.cell row index)) :
    ∃ result, ofRows layout name columns rows = .ok result := by
  obtain ⟨label, handed⟩ := OutputColumn.exists_terminated named
  have each : ∀ entry ∈ columns.zipIdx, ∃ descriptor,
      entry.1.descriptor layout (rows.map fun row => Table.cell row entry.2) = .ok descriptor := by
    intro entry member
    have placed : columns[entry.2]? = some entry.1 := List.mem_zipIdx_iff_getElem?.1 member
    refine OutputColumn.exists_descriptor (sound _ (List.mem_of_getElem? placed)) ?_
    intro value among
    obtain ⟨row, inside, rfl⟩ := List.mem_map.1 among
    exact stores _ _ placed row inside
  obtain ⟨descriptors, each⟩ := Except.exists_mapM_eq_ok each
  exact ⟨_, Except.bind_eq_ok.2 ⟨label, handed, Except.bind_eq_ok.2 ⟨descriptors, each, rfl⟩⟩⟩

/-! ## Why queries are refused -/

/-- The table has no column with a name. -/
def Table.Misses (table : Table) (column : String) : Prop :=
  ∀ declaration ∈ table.columns, declaration.name ≠ column

namespace Database

/-- A query names what there is not: its table, a column of its projection or that of its
filter. -/
inductive Lacks (database : Database) (name : String) (projection : Option (List String))
    (filter : Option Filter) : Failure → Prop
  | table (unknown : database.catalog.find? name = none) :
      Lacks database name projection filter (.unknownTable name)
  | projected {table : Table} {names : List String} {column : String}
      (found : database.catalog.find? name = some table) (listed : projection = some names)
      (member : column ∈ names) (unknown : table.Misses column) :
      Lacks database name projection filter (.unknownColumn column name)
  | filtered {table : Table} {condition : Filter}
      (found : database.catalog.find? name = some table) (asked : filter = some condition)
      (unknown : table.Misses condition.column) :
      Lacks database name projection filter (.unknownColumn condition.column name)

/-- Why a query with values for its placeholders is refused: for what it names, for a placeholder
without a value, or for a value that its column does not take. -/
inductive RefusesQuery (database : Database) (name : String) (projection : Option (List String))
    (filter : Option Filter) (parameters : List Value) : Failure → Prop
  | lacks {failure : Failure} (lacks : database.Lacks name projection filter failure) :
      RefusesQuery database name projection filter parameters failure
  | unbound {condition : Filter} {index : Nat} (asked : filter = some condition)
      (placed : condition.value = .placeholder index) (unbound : parameters[index]? = none) :
      RefusesQuery database name projection filter parameters (.unboundPlaceholder (index + 1))
  | uncoerced {table : Table} {condition : Filter} {declaration : ColumnDeclaration}
      {value : Value} {failure : Failure} (found : database.catalog.find? name = some table)
      (asked : filter = some condition) (member : declaration ∈ table.columns)
      (named : declaration.name = condition.column)
      (resolved : condition.value.resolve parameters = .ok value)
      (rejected : declaration.type.coerce value = .error failure) :
      RefusesQuery database name projection filter parameters failure

end Database

/-! ## Resolving names -/

namespace Table

variable {table : Table}

theorem failsFor_target (table : Table) (column : String) : Except.FailsFor
    (fun failure => failure = .unknownColumn column table.name ∧ table.Misses column)
    (table.target column) := by
  intro failure failed
  unfold target at failed
  split at failed
  · cases failed
  · next missing =>
      cases failed
      refine ⟨rfl, fun declaration member same => ?_⟩
      obtain ⟨position, there⟩ := List.getElem?_of_mem member
      have entry : (declaration, position) ∈ table.columns.zipIdx :=
        List.mem_zipIdx_iff_getElem?.2 there
      exact List.find?_eq_none.1 missing _ entry (decide_eq_true same)

/-- A target that was found is a column of the table. -/
theorem mem_of_targets {names : Option (List String)} {targets : List Target}
    (aimed : table.targets names = .ok targets) {target : Target} (member : target ∈ targets) :
    target.column ∈ table.columns :=
  List.mem_of_getElem? (targets_of aimed target member)

/-- The names of the columns are those that are asked for. -/
theorem names_of_targets {names : Option (List String)} {targets : List Target}
    (aimed : table.targets names = .ok targets) :
    targets.map (·.column.name) = names.getD (table.columns.map (·.name)) := by
  cases names with
  | none =>
      cases aimed
      calc
        _ = (table.columns.zipIdx.map Prod.fst).map (·.name) := by
          rw [List.map_map, List.map_map]
          rfl
        _ = _ := by
          rw [List.zipIdx_map_fst]
          rfl
  | some names =>
      have each := Except.mapM_eq_ok.1 aimed
      clear aimed
      induction each with
      | nil => rfl
      | cons one _ ih =>
          obtain ⟨_, named⟩ := target_of one
          exact congrArg₂ List.cons named ih

/-- The columns of a projection store the cells that are selected of a row. -/
theorem WellFormed.stores_targets {layout : TagLayout} (formed : table.WellFormed layout)
    {names : Option (List String)} {targets : List Target}
    (aimed : table.targets names = .ok targets) {row : Row} (member : row ∈ table.rows)
    {index : Nat} {output : OutputColumn}
    (there : (targets.map fun target => target.column.output)[index]? = some output) :
    output.type.Stores (cell (targets.map fun target => cell row target.position) index) := by
  rw [List.getElem?_map] at there
  obtain ⟨target, listed, rfl⟩ := Option.map_eq_some_iff.1 there
  rw [cell_map listed fun target => cell row target.position]
  exact (formed.rows_fit row member).cell (targets_of aimed target (List.mem_of_getElem? listed))

/-- A value is made for a target unless its placeholder has none or the target does not take it. -/
theorem Target.failsFor_coerce (target : Target) (parameters : List Value)
    (expression : Expression) : Except.FailsFor (fun failure =>
      (∃ index, expression = .placeholder index ∧ parameters[index]? = none ∧
        failure = .unboundPlaceholder (index + 1)) ∨
      ∃ value, expression.resolve parameters = .ok value ∧
        target.column.type.coerce value = .error failure)
      (target.coerce parameters expression) := by
  refine Except.FailsFor.bind (fun failure failed => .inl ?_) fun value resolved failure failed =>
    .inr ⟨value, resolved, failed⟩
  cases expression with
  | literal value => cases failed
  | placeholder index =>
      simp only [Expression.resolve] at failed
      split at failed
      · cases failed
      · next unbound =>
          cases failed
          exact ⟨index, rfl, unbound, rfl⟩

end Table

namespace Database

variable {database : Database} {name : String} {projection : Option (List String)}
  {filter : Option Filter} {parameters : List Value} {table : Table}

theorem failsFor_table (database : Database) (name : String) (projection : Option (List String))
    (filter : Option Filter) :
    Except.FailsFor (database.Lacks name projection filter) (database.catalog.table name) := by
  intro failure failed
  unfold Catalog.table at failed
  split at failed
  · cases failed
  · next unknown =>
      cases failed
      exact .table unknown

theorem failsFor_targets (found : database.catalog.table name = .ok table) :
    Except.FailsFor (database.Lacks name projection filter) (table.targets projection) := by
  have known := Catalog.table_eq_ok.1 found
  cases projection with
  | none => exact Except.failsFor_ok _
  | some names =>
      refine Except.FailsFor.mapM fun column member failure failed => ?_
      obtain ⟨rfl, unknown⟩ := table.failsFor_target column failure failed
      rw [Catalog.name_of_find? known]
      exact .projected known rfl member unknown

theorem failsFor_filterTarget (found : database.catalog.table name = .ok table)
    {condition : Filter} (asked : filter = some condition) :
    Except.FailsFor (database.Lacks name projection filter) (table.target condition.column) := by
  have known := Catalog.table_eq_ok.1 found
  intro failure failed
  obtain ⟨rfl, unknown⟩ := table.failsFor_target condition.column failure failed
  rw [Catalog.name_of_find? known]
  exact .filtered known asked unknown

theorem failsFor_test (found : database.catalog.table name = .ok table) :
    Except.FailsFor (database.RefusesQuery name projection filter parameters)
      (table.test filter parameters) := by
  cases filter with
  | none => exact Except.failsFor_ok _
  | some condition =>
      refine ((failsFor_filterTarget found rfl).mono fun _ => .lacks).bind fun target aimed => ?_
      have coerced : Except.FailsFor
          (database.RefusesQuery name projection (some condition) parameters)
          (target.coerce parameters condition.value) := by
        intro failure failed
        obtain ⟨index, placed, unbound, rfl⟩ | ⟨value, resolved, rejected⟩ :=
          target.failsFor_coerce parameters condition.value failure failed
        · exact .unbound rfl placed unbound
        · obtain ⟨of, named⟩ := Table.target_of aimed
          exact .uncoerced (Catalog.table_eq_ok.1 found) rfl (List.mem_of_getElem? of) named
            resolved rejected
      refine coerced.bind fun wanted _ => ?_
      split <;> exact Except.failsFor_ok _

theorem WellFormed.nulFree_name (formed : database.WellFormed)
    (found : database.catalog.table name = .ok table) : NulFree name.toList := by
  have own := (formed.find found).named
  rwa [Catalog.name_of_find? (Catalog.table_eq_ok.1 found)] at own

/-- The columns of a well-formed table can be laid out under their names. -/
theorem WellFormed.sound (formed : database.WellFormed)
    (found : database.catalog.table name = .ok table) {targets : List Table.Target}
    (aimed : table.targets projection = .ok targets) :
    ∀ output ∈ targets.map fun target => target.column.output, output.Sound database.layout := by
  intro output member
  obtain ⟨target, inside, rfl⟩ := List.mem_map.1 member
  have column := Table.mem_of_targets aimed inside
  exact ⟨(formed.find found).carried _ column, (formed.find found).columns_named _ column⟩

/-- A query that finds its table, its columns and its rows is answered with them. -/
theorem exists_rows_of_selects (formed : database.WellFormed) {targets : List Table.Target}
    {test : Row → Bool}
    (selects : database.Selects name projection filter parameters table targets test) :
    ∃ native, NativeResult.ofRows database.layout name
        (targets.map fun target => target.column.output)
        ((table.rows.filter test).map fun row =>
          targets.map fun target => Table.cell row target.position) = .ok native ∧
      database.execute (.select name projection filter) parameters =
        .ok (database, .rows native) := by
  obtain ⟨found, aimed, tested⟩ := selects
  have stores : ∀ (index : Nat) (output : OutputColumn),
      (targets.map fun target => target.column.output)[index]? = some output →
      ∀ row ∈ (table.rows.filter test).map fun row =>
        targets.map fun target => Table.cell row target.position,
      output.type.Stores (Table.cell row index) := by
    intro index output there row member
    obtain ⟨original, inside, rfl⟩ := List.mem_map.1 member
    exact (formed.find found).stores_targets aimed (List.mem_of_mem_filter inside) there
  obtain ⟨native, laid⟩ :=
    NativeResult.exists_ofRows (formed.nulFree_name found) (formed.sound found aimed) stores
  have selected : table.select projection filter parameters =
      .ok (targets, (table.rows.filter test).map fun row =>
        targets.map fun target => Table.cell row target.position) := by
    rw [Table.select_eq]
    exact Except.bind_eq_ok.2 ⟨targets, aimed, Except.bind_eq_ok.2 ⟨test, tested, rfl⟩⟩
  exact ⟨native, laid, execute_eq_ok.2 (.select (Catalog.table_eq_ok.1 found) selected laid)⟩

/-- **A query of a well-formed database is refused for what it says**, and never because its
rows cannot be laid out. -/
theorem failsFor_execute_select (formed : database.WellFormed) (name : String)
    (projection : Option (List String)) (filter : Option Filter) (parameters : List Value) :
    Except.FailsFor (database.RefusesQuery name projection filter parameters)
      (database.execute (.select name projection filter) parameters) := by
  refine ((database.failsFor_table name projection filter).mono fun _ => .lacks).bind
    fun table found => ?_
  have selected : Except.FailsFor (database.RefusesQuery name projection filter parameters)
      (table.select projection filter parameters) :=
    ((failsFor_targets found).mono fun _ => .lacks).bind fun targets _ =>
      (failsFor_test found).bind fun test _ => Except.failsFor_ok _
  refine selected.bind fun answer selects => ?_
  rw [Table.select_eq] at selects
  obtain ⟨targets, aimed, selects⟩ := Except.bind_eq_ok.1 selects
  obtain ⟨test, tested, whole⟩ := Except.bind_eq_ok.1 selects
  cases whole
  obtain ⟨native, laid, _⟩ := exists_rows_of_selects formed ⟨found, aimed, tested⟩
  exact Except.failsFor_of_exists ⟨_, Except.bind_eq_ok.2 ⟨native, laid, rfl⟩⟩

end Database

/-! ## Preparing -/

theorem DeclaredType.nulFree_name (type : DeclaredType) : NulFree type.name.toList := by
  cases type with
  | integer kind => cases kind <;> simp [name, NulFree]
  | _ => simp [name, NulFree]

theorem ColumnType.nulFree_kernelName (type : ColumnType) : NulFree type.kernelName.toList := by
  rcases type with (_ | kind | _ | _) | kind | _
  case fixed.integer => cases kind <;> simp [kernelName, NulFree]
  case boxed => cases kind <;> simp [kernelName, NulFree]
  all_goals simp [kernelName, NulFree]

namespace Description

/-- The columns of a description store what it says of a type, if the names in it have no NUL. -/
theorem stores_row {index : Nat} {output : OutputColumn} (named : columns[index]? = some output)
    (type : DeclaredType) {owner : Option (String × String)}
    (free : ∀ names ∈ owner, NulFree names.1.toList ∧ NulFree names.2.toList) :
    output.type.Stores (Table.cell (row type owner) index) := by
  have schema : NulFree "sys".toList := by simp [NulFree]
  -- a parameter has NULL in the place of the names
  rcases index with _ | _ | _ | _ | _ | _ | _ | index <;> cases named
  case _ => exact type.nulFree_name
  case _ => exact rfl
  case _ => exact rfl
  case _ =>
    cases owner with
    | none => trivial
    | some names => exact schema
  case _ =>
    cases owner with
    | none => trivial
    | some names => exact (free names rfl).1
  case _ =>
    cases owner with
    | none => trivial
    | some names => exact (free names rfl).2
  case _ => exact type.storage.nulFree_kernelName

theorem sound_columns (layout : TagLayout) : ∀ output ∈ columns, output.Sound layout := by
  intro output member
  simp only [columns, List.mem_cons, List.not_mem_nil, or_false] at member
  rcases member with rfl | rfl | rfl | rfl | rfl | rfl | rfl <;>
    exact ⟨rfl, by simp [NulFree]⟩

/-- **A statement is described**, if the names in its description have no NUL. -/
theorem exists_description (layout : TagLayout) {table : String} {outputs : List OutputColumn}
    (named : NulFree table.toList) (each : ∀ output ∈ outputs, NulFree output.name.toList)
    (parameters : List DeclaredType) :
    ∃ native, description layout table outputs parameters = .ok native := by
  refine NativeResult.exists_ofRows (by simp [NulFree]) (sound_columns layout)
    fun index output placed row member => ?_
  rcases List.mem_append.1 member with own | other
  · obtain ⟨output, inside, rfl⟩ := List.mem_map.1 own
    exact stores_row placed _ fun names known => by
      cases known
      exact ⟨named, each output inside⟩
  · obtain ⟨type, _, rfl⟩ := List.mem_map.1 other
    exact stores_row placed _ fun names known => by cases known

end Description

namespace Database

variable {database : Database} {name : String} {projection : Option (List String)}
  {filter : Option Filter} {table : Table}

/-- The parameters of a query have types of columns. -/
theorem mem_of_noteFilter {types : PlaceholderTypes}
    (noted : PlaceholderTypes.noteFilter [] table filter = .ok types) :
    ∀ entry ∈ types, ∃ column ∈ table.columns, column.type = entry.2 := by
  intro entry member
  cases filter with
  | none =>
      cases noted
      cases member
  | some condition =>
      obtain ⟨target, aimed, whole⟩ := Except.bind_eq_ok.1 noted
      cases whole
      obtain ⟨of, _⟩ := Table.target_of aimed
      cases placed : condition.value with
      | literal value =>
          rw [placed] at member
          cases member
      | placeholder index =>
          rw [placed] at member
          rw [List.mem_singleton.1 member]
          exact ⟨_, List.mem_of_getElem? of, rfl⟩

/-- The layout can carry the types of the placeholders of a query. -/
theorem WellFormed.carried_of_placeholderTypes (formed : database.WellFormed)
    {types : PlaceholderTypes}
    (noted : database.placeholderTypes (.select name projection filter) = .ok types) :
    ∀ type ∈ types.map Prod.snd, type.checkLayout database.layout = .ok () := by
  obtain ⟨table, found, noted⟩ := Except.bind_eq_ok.1 noted
  intro type member
  obtain ⟨entry, inside, rfl⟩ := List.mem_map.1 member
  obtain ⟨column, among, same⟩ := mem_of_noteFilter noted entry inside
  exact same ▸ (formed.find found).carried column among

/-- The types of the parameters of a query are known unless it names what there is not. -/
theorem failsFor_parameterTypes (formed : database.WellFormed) :
    Except.FailsFor (database.Lacks name projection filter)
      (database.parameterTypes (.select name projection filter)) := by
  have noted : Except.FailsFor (database.Lacks name projection filter)
      (database.placeholderTypes (.select name projection filter)) := by
    refine (database.failsFor_table name projection filter).bind fun table found => ?_
    cases filter with
    | none => exact Except.failsFor_ok _
    | some condition =>
        exact (failsFor_filterTarget found rfl).bind fun target _ => Except.failsFor_ok _
  refine noted.bind fun types noted => Except.failsFor_of_exists ?_
  exact ⟨_, Except.bind_eq_ok.2
    ⟨(), Except.forM_eq_ok (formed.carried_of_placeholderTypes noted), rfl⟩⟩

theorem WellFormed.exists_tags (formed : database.WellFormed) {parameters : List DeclaredType}
    (typed : database.parameterTypes (.select name projection filter) = .ok parameters) :
    ∃ tags, StoredStatement.tags database.layout parameters = .ok tags := by
  obtain ⟨types, noted, rest⟩ := Except.bind_eq_ok.1 typed
  obtain ⟨⟨⟩, _, whole⟩ := Except.bind_eq_ok.1 rest
  cases whole
  exact Except.exists_mapM_eq_ok fun type member =>
    OutputColumn.exists_tag (formed.carried_of_placeholderTypes noted type member)

/-- **Preparing a query of a well-formed database is refused for what it names**, and never
because it cannot be described. -/
theorem failsFor_prepare_select (formed : database.WellFormed) (handle : Handle .database)
    (name : String) (projection : Option (List String)) (filter : Option Filter) :
    Except.FailsFor (database.Lacks name projection filter)
      (database.prepare handle (.select name projection filter)) := by
  refine (failsFor_parameterTypes formed).bind fun parameters typed => ?_
  have outputs : Except.FailsFor (database.Lacks name projection filter)
      (database.outputs (.select name projection filter)) :=
    (database.failsFor_table name projection filter).bind fun table found =>
      (failsFor_targets found).bind fun targets _ => Except.failsFor_ok _
  refine outputs.bind fun answer shown => Except.failsFor_of_exists ?_
  obtain ⟨table, found, shown⟩ := Except.bind_eq_ok.1 shown
  obtain ⟨targets, aimed, whole⟩ := Except.bind_eq_ok.1 shown
  cases whole
  have sound := formed.sound found aimed
  obtain ⟨description, described⟩ := Description.exists_description database.layout
    (formed.nulFree_name found) (fun output member => (sound output member).named) parameters
  obtain ⟨tags, tagged⟩ := formed.exists_tags typed
  exact ⟨_, Except.bind_eq_ok.2 ⟨description, described, Except.bind_eq_ok.2 ⟨tags, tagged, rfl⟩⟩⟩

end Database

end ColumnStore
