import ColumnStore.Proofs.Client.Delivery

/-!
# What is told of a statement is what it does

When a statement is prepared it tells the types of its parameters twice, in the tags that the
engine shows and in the description that is read, and the columns that it returns once. The types
of the parameters are the same in both (`PreparedStatement.types_of_prepare`). The columns are
those of the rows that the statement is answered with later, one for one and with the same names,
types and scales, and there are none just if it is answered with a count. Whatever is bound and
requested in between does not matter, as long as the table has the same columns when the
statement is executed.

The digits of a long text can be lost on the way (`Description.exists_limit_lost`); no column that
is fetched tells any.

Main result: `Connection.Opens.predicts`.
-/

set_option autoImplicit false

namespace ColumnStore

/-! ## The same columns, another time -/

/-- Tables with one name and the same columns have the same targets. -/
theorem Table.targets_congr {table other : Table} (named : table.name = other.name)
    (same : table.columns = other.columns) (names : Option (List String)) :
    table.targets names = other.targets names := by
  have each : table.target = other.target := by
    funext column
    rw [target, target, named, same]
  cases names with
  | none => rw [targets, targets, same]
  | some names => rw [targets, targets, each]

/-- The columns of the table with a name, if there is one. -/
def Database.columnsOfTable (database : Database) (name : String) :
    Option (List ColumnDeclaration) :=
  (database.catalog.find? name).map (·.columns)

/-- A query returns the columns that it would have returned from the same columns. -/
theorem Database.Selects.outputs {database now : Database} {name : String}
    {projection : Option (List String)} {filter : Option Filter} {parameters : List Value}
    {table : Table} {targets : List Table.Target} {test : Row → Bool}
    (selects : now.Selects name projection filter parameters table targets test)
    (same : now.columnsOfTable name = database.columnsOfTable name) {owner : String}
    {outputs : List OutputColumn}
    (returned : database.outputs (.select name projection filter) = .ok (owner, outputs)) :
    outputs = targets.map fun target => target.column.output := by
  obtain ⟨before, found, returned⟩ := Except.bind_eq_ok.1 returned
  obtain ⟨aimed, listed, whole⟩ := Except.bind_eq_ok.1 returned
  cases whole
  have there := Catalog.table_eq_ok.1 selects.table_eq
  have earlier := Catalog.table_eq_ok.1 found
  rw [columnsOfTable, columnsOfTable, there, earlier] at same
  have named := (Catalog.name_of_find? earlier).trans (Catalog.name_of_find? there).symm
  have again := Table.targets_congr named (Option.some.inj same).symm projection
  rw [listed, selects.targets_eq] at again
  cases again
  rfl

/-! ## Fetched columns -/

/-- A column is what is told of it: its name, its type, and its scale if its rows have a fixed
width. -/
structure OutputInfo.Predicts (info : OutputInfo) (column : Column) : Prop where
  name_eq : column.name = info.name
  type_eq : column.type = info.type
  scale_eq : ∀ view, column.data = .fixed view → view.scale = info.scale

namespace ResultSet

variable {result : ResultSet Engine} {earlier : Nat} {output : OutputColumn} {values : List Value}
  {column : Column}

/-- A fetched column of fixed width has the scale that was declared. -/
theorem Fetches.scale_eq (fetches : result.Fetches earlier output values column)
    {view : FixedColumn} (fixed : column.data = .fixed view) : view.scale = output.type.scale := by
  obtain ⟨original, whole, laid, ⟨current, index, seen, yields⟩, cut⟩ := fetches
  have shown (view : FixedColumn) (data : whole.data = .fixed view) :
      view.scale = output.type.scale := by
    cases storage : output.type.storage with
    | fixed kind =>
        rcases seen with rfl | ⟨_, rfl⟩
        · rw [OutputColumn.materialize_first storage laid] at yields
          cases yields
          cases data
          rfl
        · rw [OutputColumn.materialize_later storage laid] at yields
          cases yields
          cases data
          rfl
    | boxed kind =>
        obtain ⟨list, _, materialized⟩ := OutputColumn.materialize_boxed storage laid
        rw [materialized current (seen.imp_right And.right)] at yields
        cases yields
        cases data
    | unknown => exact absurd storage (OutputColumn.storage_ne_unknown _)
  rcases cut with rfl | ⟨rfl, _⟩
  · obtain ⟨name, data⟩ := whole
    cases data with
    | fixed original =>
        cases fixed
        exact shown original rfl
    | boxed original => cases fixed
  · exact shown view fixed

/-- A fetched column is what is told of its output column. -/
theorem Fetches.predicted (fetches : result.Fetches earlier output values column)
    (shown : result.rowCount ≤ values.length) :
    (OutputInfo.ofColumn output).told.Predicts column := by
  have fits := fetches.fits shown
  exact ⟨fits.name_eq, fits.type_eq, fun view fixed => fetches.scale_eq fixed⟩

end ResultSet

/-- Rows have the columns that are told, whenever they are fetched, and there is some; a count
comes without columns. -/
def Metadata.Predicts (metadata : Metadata) (selected : Engine) : Outcome Engine → Prop
  | .rows result => metadata.columns ≠ [] ∧
      ∀ fetches later, result.Interlude selected fetches later →
        ∃ columns final, result.fetchAll later = (.ok columns, final) ∧
          List.Forall₂ OutputInfo.Predicts metadata.columns columns.columns
  | .updated _ => metadata.columns = []

namespace PreparedStatement

variable {connection : Connection Engine} {text : String} {engine final : Engine}
  {statement : PreparedStatement Engine}

/-- The types that the tags of the parameters name are those that are told of them. -/
theorem types_of_prepare (inProcess : connection.InProcess)
    (matching : ∀ database, engine.database? (some connection.handle) = some database →
      database.layout = connection.api.layout)
    (prepared : connection.prepare text engine = (.ok statement, final)) :
    statement.types = statement.metadata.parameters.map (·.type) := by
  obtain ⟨database, parsed, parameters, _, _, _, _, _, tracks, _, outputs, told⟩ :=
    described_of_prepare inProcess matching prepared
  rw [tracks.types_eq, told]
  simp only [Metadata.told, Metadata.declared, List.map_map]
  rfl

/-- Only queries return columns. -/
theorem outputs_of_not_select {database : Database} {parsed : Statement} {owner : String}
    {outputs : List OutputColumn}
    (other : ∀ name projection filter, parsed ≠ .select name projection filter)
    (returned : database.outputs parsed = .ok (owner, outputs)) : outputs = [] := by
  cases parsed with
  | select name projection filter => exact absurd rfl (other name projection filter)
  | _ =>
      cases returned
      rfl

/-- What is told of the columns of a statement is what it is answered with. -/
theorem Tracks.predicts_of_execute {statement : PreparedStatement Engine} {parsed : Statement}
    {parameters : List DeclaredType} {given : List (Option Value)} {later selected : Engine}
    {now database : Database} {owner : String} {outputs : List OutputColumn}
    {options : QueryOptions} {outcome : Outcome Engine}
    (tracks : Tracks statement statement.connection.handle parsed parameters given later)
    (reachable : later.Reachable) (spelled : Statement.parse text = .ok parsed)
    (present : later.database? (some statement.connection.handle) = some now)
    (returned : database.outputs parsed = .ok (owner, outputs))
    (same : now.columnsOfTable parsed.table = database.columnsOfTable parsed.table)
    (executed : statement.execute options later = (.ok outcome, selected)) :
    (Metadata.declared outputs parameters).told.Predicts selected outcome := by
  obtain ⟨stored, kept, delivers⟩ := tracks.delivers reachable spelled present
  obtain ⟨values, valued, suits⟩ := (delivers options _ selected executed).2 outcome rfl
  obtain ⟨bound, known, _⟩ := tracks.kept
  cases kept.symm.trans known
  cases outcome with
  | updated count =>
      obtain rfl := outputs_of_not_select suits returned
      rfl
  | rows result =>
      obtain ⟨name, projection, filter, table, targets, test, rfl, selects, _, count, _⟩ := suits
      obtain rfl := selects.outputs same returned
      have formed := (Engine.wellFormed_of_reachable reachable).onDatabase present
      have answers : ResultSet.Answers later now (.select name projection filter) values result
          selected := .execute tracks.inProcess known present rfl valued executed
      have layout : now.layout = result.connection.api.layout := by
        obtain ⟨_, _, _, taken⟩ := Call.bind_eq_ok.1 executed
        rw [(Outcome.ofExecuted_rows taken).2.2.1]
        exact tracks.opened.layout_of_database? present
      have told : (Metadata.declared (targets.map fun target => target.column.output)
          parameters).told.columns =
            targets.map fun target => (OutputInfo.ofColumn target.column.output).told := by
        simp only [Metadata.told, Metadata.declared, List.map_map]
        rfl
      rw [Metadata.Predicts, told]
      constructor
      · exact mt List.map_eq_nil_iff.1 (selects.targets_ne_nil formed spelled)
      · intro fetches afterwards interlude
        obtain ⟨_, _, _, columns, final, again, fetched, length, each⟩ :=
          ResultSet.fetchAll_of_answers reachable answers layout interlude
        obtain ⟨rfl, rfl, rfl⟩ := selects.unique again
        refine ⟨columns, final, fetched, List.forall₂_map_left_iff.2 ?_⟩
        refine List.forall₂_iff_get.2 ⟨length.symm, fun index aimed there => ?_⟩
        obtain ⟨_, column, listed, made⟩ := each index _ (List.getElem?_eq_getElem aimed)
        obtain ⟨_, rfl⟩ := List.getElem?_eq_some_iff.1 listed
        refine made.predicted ?_
        rw [Table.matching, List.length_map, ← count]
        exact result.rowCount_le

end PreparedStatement

/-- **What is told of a prepared statement is what it does**: its parameters have the types that
the engine shows, and if it is executed while its table has the same columns, it is answered with
the columns that are told, or with a count if none are. -/
theorem Connection.Opens.predicts {connection : Connection Engine} {engine start : Engine}
    {database : Database} (opens : connection.Opens engine database) {text : String}
    {prepared : PreparedStatement Engine}
    (answered : connection.prepare text engine = (.ok prepared, start)) :
    prepared.types = prepared.metadata.parameters.map (·.type) ∧
    ∃ parsed, Statement.parse text = .ok parsed ∧
      ∀ statement given later now, PreparedStatement.Bindings prepared start statement given later →
        later.database? (some connection.handle) = some now →
        now.columnsOfTable parsed.table = database.columnsOfTable parsed.table →
        statement.types = prepared.types ∧ statement.metadata = prepared.metadata ∧
        ∀ options outcome selected, statement.execute options later = (.ok outcome, selected) →
          prepared.metadata.Predicts selected outcome := by
  have matching (other : Database)
      (there : engine.database? (some connection.handle) = some other) :
      other.layout = connection.api.layout :=
    Option.some.inj (opens.opened.symm.trans there) ▸ opens.layout_eq
  obtain ⟨other, parsed, parameters, found, spelled, _, _, own, tracks, _, owner, outputs, returned,
    told⟩ := PreparedStatement.declared_of_prepare opens.inProcess matching answered
  cases opens.opened.symm.trans found
  refine ⟨PreparedStatement.types_of_prepare opens.inProcess matching answered, parsed, spelled, ?_⟩
  intro statement given later now bindings present same
  have reachable : later.Reachable := by
    refine PreparedStatement.reachable_of_bindings (own ▸ opens.inProcess) ?_ bindings
    have kept := Connection.reachable_prepare opens.inProcess opens.reachable text
    rwa [answered] at kept
  have tracked := PreparedStatement.tracks_of_bindings tracks bindings
  obtain ⟨slots, rfl⟩ := PreparedStatement.slots_of_bindings bindings
  refine ⟨rfl, rfl, fun options outcome selected executed => ?_⟩
  rw [← own] at tracked present
  rw [told]
  exact tracked.predicts_of_execute reachable spelled present returned same executed

/-- Two columns of the table of edges, in another order. -/
def ResultSet.edgesText : String :=
  "SELECT c, b FROM t"

/-- The rows of the table are deleted after the query is prepared. -/
def ResultSet.edgesCleared : Engine :=
  (Engine.Request.sql "DELETE FROM t").perform
    (edgesOpened.prepare edgesText (Engine.after edgesFilled)).2

/-- A decimal and a day are told, and they are what is fetched of no rows. -/
theorem Connection.predicts_edges : ∃ database prepared now outcome selected,
    ResultSet.edgesOpened.Opens (Engine.after ResultSet.edgesFilled) database ∧
      (ResultSet.edgesOpened.prepare ResultSet.edgesText (Engine.after ResultSet.edgesFilled)).1 =
        .ok prepared ∧
      ResultSet.edgesCleared.database? (some ResultSet.edgesOpened.handle) = some now ∧
      now.columnsOfTable "t" = database.columnsOfTable "t" ∧
      prepared.execute ⟨false, 0⟩ ResultSet.edgesCleared = (.ok outcome, selected) ∧
      prepared.metadata.columns =
        [⟨"c", .integer .int32, "decimal", 5, 2⟩, ⟨"b", .date, "date", 0, 0⟩] ∧
      prepared.metadata.Predicts selected outcome := by
  obtain ⟨database, _, opened, layout, catalog, _⟩ := ResultSet.queried_edges
  have opens : ResultSet.edgesOpened.Opens (Engine.after ResultSet.edgesFilled) database :=
    ⟨rfl, ⟨ResultSet.edgesFilled, rfl⟩, opened, layout⟩
  have ran : ((ResultSet.edgesOpened.prepare ResultSet.edgesText
      (Engine.after ResultSet.edgesFilled)).1.toOption.bind fun prepared =>
        (prepared.execute ⟨false, 0⟩ ResultSet.edgesCleared).1.toOption.map fun _ =>
          prepared.metadata.columns) =
      some [⟨"c", .integer .int32, "decimal", 5, 2⟩, ⟨"b", .date, "date", 0, 0⟩] := by
    decide +kernel
  have still : (ResultSet.edgesCleared.database? (some ResultSet.edgesOpened.handle)).map
      (·.columnsOfTable "t") = some (some ResultSet.edges.columns) := by
    decide +kernel
  have read : Statement.parse ResultSet.edgesText = .ok (.select "t" (some ["c", "b"]) none) := by
    decide +kernel
  obtain ⟨prepared, shown, ran⟩ := Option.bind_eq_some_iff.1 ran
  obtain ⟨outcome, answered, columns⟩ := Option.map_eq_some_iff.1 ran
  obtain ⟨now, present, kept⟩ := Option.map_eq_some_iff.1 still
  have same : now.columnsOfTable "t" = database.columnsOfTable "t" := by
    rw [kept, Database.columnsOfTable, catalog]
    rfl
  have executed := Call.eq_of_toOption answered
  obtain ⟨_, parsed, spelled, predicts⟩ := opens.predicts (Call.eq_of_toOption shown)
  cases read.symm.trans spelled
  obtain ⟨_, _, predicted⟩ := predicts prepared _ _ now
    (.request .start (.sql "DELETE FROM t") trivial) present same
  exact ⟨database, prepared, now, outcome, _, opens, congrArg Prod.fst (Call.eq_of_toOption shown),
    present, same, executed, columns, predicted _ _ _ executed⟩

end ColumnStore
