import ColumnStore.Client.Statement
import ColumnStore.Proofs.Client.FetchAll

/-!
# What queries read back

Rows reach a caller by a query that is accepted, run as it is or as a prepared statement
(`ResultSet.Answers`), and by a fetch of its result some time later. Every column that is no
decimal then shows for each matching row what its stored cell reads back as, and this does not
depend on what happened in between. A decimal with a scale is read back as it was stored by the
first fetch (`ResultSet.fetchAll_decimal`); that fetch turns NULL into zero where it lies, so
that a second one would not know it from a stored zero.
-/

set_option autoImplicit false

namespace ColumnStore

/-! ## Statements that the engine runs -/

/-- What the engine does when a query is asked for. -/
theorem Connection.query_inProcess {connection : Connection Engine} {engine : Engine}
    {database : Database} {text : String} {sent : NativeText} (inProcess : connection.InProcess)
    (opened : engine.database? (some connection.handle) = some database)
    (handed : terminated text = .ok sent) :
    connection.api.table.query (some connection.handle) (some sent) engine =
      Engine.run connection.handle database true
        (do database.execute (← Statement.parse text) []) engine := by
  rw [inProcess]
  show Engine.query (some connection.handle) (some sent) true engine = _
  simp only [Engine.query, Engine.onDatabase, opened, toString_of_terminated handed]

/-- What the engine does when a prepared statement is executed. -/
theorem PreparedStatement.execute_inProcess {prepared : PreparedStatement Engine}
    {stored : StoredStatement} {engine : Engine} {database : Database}
    (inProcess : prepared.connection.InProcess)
    (kept : engine.statement? (some prepared.handle) = some stored)
    (opened : engine.database? (some stored.database) = some database) :
    prepared.connection.api.table.execute (some prepared.handle) engine =
      Engine.run stored.database database true
        (do database.execute stored.statement (← stored.values)) engine := by
  rw [inProcess]
  show Engine.execute (some prepared.handle) true engine = _
  simp only [Engine.execute, Engine.onStatement, kept, opened]

/-! ## Statements that answer with rows -/

/-- A statement answers with columns if it is a query. -/
theorem Engine.run_rows {handle : Handle .database} {database : Database}
    {attempt : Except Failure (Database × Effect)} {engine final : Engine} {executed : Executed}
    {live : LiveResult} (ran : run handle database true attempt engine = (.ok executed, final))
    (handed : executed.result = some live) (columns : 0 < live.header.columnCount) :
    ∃ changed native, attempt = .ok (changed, .rows native) ∧ live.header = native.header ∧
      final.result? (some live.handle) = some native := by
  cases attempt with
  | error failure => cases ran
  | ok answer =>
      obtain ⟨changed, effect⟩ := answer
      cases effect with
      | rows native =>
          cases ran
          cases handed
          exact ⟨changed, native, rfl, rfl, result?_addResult_self _ _⟩
      | schema =>
          cases ran
          cases handed
          cases columns
      | affected count =>
          cases ran
          cases handed

namespace ResultSet

/-- A statement with values for its placeholders answers with rows, run as a query or as a
prepared statement. -/
inductive Answers (engine : Engine) (database : Database) (statement : Statement)
    (parameters : List Value) (result : ResultSet Engine) (selected : Engine) : Prop
  | query {connection : Connection Engine} {text : String} {options : QueryOptions}
      (inProcess : connection.InProcess)
      (opened : engine.database? (some connection.handle) = some database)
      (spelled : Statement.parse text = .ok statement) (unbound : parameters = [])
      (answered : connection.query text options engine = (.ok (.rows result), selected))
  | execute {prepared : PreparedStatement Engine} {stored : StoredStatement}
      {options : QueryOptions} (inProcess : prepared.connection.InProcess)
      (kept : engine.statement? (some prepared.handle) = some stored)
      (opened : engine.database? (some stored.database) = some database)
      (spelled : stored.statement = statement) (bound : stored.values = .ok parameters)
      (answered : prepared.execute options engine = (.ok (.rows result), selected))

section Answers

variable {engine selected later : Engine} {database : Database} {statement : Statement}
  {parameters : List Value} {result : ResultSet Engine}

theorem Answers.inProcess (answers : Answers engine database statement parameters result selected) :
    result.connection.InProcess := by
  cases answers with
  | query inProcess _ _ _ answered =>
      obtain ⟨text, middle, _, answered⟩ := Call.bind_eq_ok.1 answered
      obtain ⟨executed, middle, _, answered⟩ := Call.bind_eq_ok.1 answered
      rw [(Outcome.ofExecuted_rows answered).2.2.1]
      exact inProcess
  | execute inProcess _ _ _ _ answered =>
      obtain ⟨executed, middle, _, answered⟩ := Call.bind_eq_ok.1 answered
      rw [(Outcome.ofExecuted_rows answered).2.2.1]
      exact inProcess

theorem Answers.opened (answers : Answers engine database statement parameters result selected) :
    ∃ given, engine.database? given = some database := by
  cases answers with
  | query _ opened => exact ⟨_, opened⟩
  | execute _ _ opened => exact ⟨_, opened⟩

/-- The engine keeps the rows that the statement returned. -/
theorem Answers.run (answers : Answers engine database statement parameters result selected) :
    ∃ changed native, database.execute statement parameters = .ok (changed, .rows native) ∧
      result.native.header = native.header ∧
      selected.result? (some result.native.handle) = some native := by
  cases answers with
  | @query connection text _ inProcess opened spelled unbound answered =>
      obtain ⟨sent, middle, settled, rest⟩ := Call.bind_eq_ok.1 answered
      obtain ⟨terminated, rfl⟩ := Api.settle_eq_ok.1 settled
      obtain ⟨executed, final, queried, taken⟩ := Call.bind_eq_ok.1 rest
      obtain ⟨handed, columns, _, rfl⟩ := Outcome.ofExecuted_rows taken
      have entry := Api.check_eq_ok.1 queried
      rw [Connection.query_inProcess inProcess opened terminated] at entry
      obtain ⟨changed, native, attempt, header, kept⟩ := Engine.run_rows entry handed columns
      obtain ⟨read, parsed, attempt⟩ := Except.bind_eq_ok.1 attempt
      rw [spelled] at parsed
      cases parsed
      exact ⟨changed, native, unbound ▸ attempt, header, kept⟩
  | @execute prepared stored _ inProcess known opened spelled bound answered =>
      obtain ⟨executed, final, called, taken⟩ := Call.bind_eq_ok.1 answered
      obtain ⟨handed, columns, _, rfl⟩ := Outcome.ofExecuted_rows taken
      have entry := Api.check_eq_ok.1 called
      rw [PreparedStatement.execute_inProcess inProcess known opened] at entry
      obtain ⟨changed, native, attempt, header, kept⟩ := Engine.run_rows entry handed columns
      obtain ⟨values, complete, attempt⟩ := Except.bind_eq_ok.1 attempt
      rw [bound] at complete
      cases complete
      exact ⟨changed, native, spelled ▸ attempt, header, kept⟩

end Answers

end ResultSet

/-! ## Fetching what a query selected -/

/-- A pass over the descriptor yields the column: the first pass, or a later one. -/
def Descriptor.Yields (original : Descriptor) (layout : TagLayout) (later : Prop)
    (column : Column) : Prop :=
  ∃ current index, (current = original ∨ later ∧ current = original.passed layout) ∧
    (current.materialize layout index).1 = .ok column

/-- The column has just these decimals in its rows, also as exact numbers. -/
structure Column.ShowsDecimals (column : Column) (values : List Value) : Prop
    extends column.Shows values where
  decimal_eq : ∀ row value, values[row]? = some value → column.decimal row = .ok value.decimal?

/-- The column has just the unscaled integers of these decimals in its rows, and zero for NULL. -/
structure Column.ShowsIntegers (kind : IntegerKind) (column : Column) (values : List Value) :
    Prop where
  length_eq : column.length = values.length
  null_eq : ∀ row, values[row]? = some .null → column.value row = .ok (.integer kind kind.zero)
  number_eq : ∀ row number, values[row]? = some (.decimal number) →
    ∃ cell : kind.Number, cell.val = number.unscaled ∧ column.value row = .ok (.integer kind cell)

namespace ResultSet

/-- A fetch makes the column of these values of an output column: it passes over the descriptor
they were laid out in, not for the first time if there were earlier fetches, and cuts the
column off at the limit. -/
def Fetches (result : ResultSet Engine) (earlier : Nat) (output : OutputColumn)
    (values : List Value) (column : Column) : Prop :=
  ∃ original whole, output.descriptor result.connection.api.layout values = .ok original ∧
    original.Yields result.connection.api.layout (earlier ≠ 0) whole ∧
    (column = whole.truncate result.rowCount ∨
      column = whole ∧ result.rowCount = values.length)

section Fetches

variable {engine selected later : Engine} {database : Database} {name : String}
  {projection : Option (List String)} {filter : Option Filter} {parameters : List Value}
  {result : ResultSet Engine} {fetches : Nat}

/-- **Every column of the projection is fetched from the cells that matched.** -/
theorem fetchAll_of_answers (reachable : engine.Reachable)
    (answers : Answers engine database (.select name projection filter) parameters result selected)
    (layout : database.layout = result.connection.api.layout)
    (interlude : result.Interlude selected fetches later) :
    ∃ table targets test columns final,
      database.Selects name projection filter parameters table targets test ∧
      result.fetchAll later = (.ok columns, final) ∧ columns.length = targets.length ∧
      ∀ (index : Nat) (target : Table.Target), targets[index]? = some target →
        (∀ value ∈ table.matching test target.position, target.column.type.Stores value) ∧
        ∃ column, columns.get? index = some column ∧
          result.Fetches fetches target.column.output (table.matching test target.position)
            column := by
  have inProcess := answers.inProcess
  obtain ⟨changed, native, executed, header, kept⟩ := answers.run
  obtain ⟨_, _, rows, table, targets, test, selects, laid⟩ := Database.selected_of_execute executed
  cases rows
  rw [layout] at laid
  have formed : database.WellFormed := by
    obtain ⟨given, opened⟩ := answers.opened
    exact (Engine.wellFormed_of_reachable reachable).onDatabase opened
  have count : result.columnCount = native.columns.length := by
    rw [columnCount, header, laid.columnCount_eq, laid.length_eq]
  have laidOut {index : Nat} {original : Descriptor}
      (there : native.columns[index]? = some original) : ∃ column values,
        OutputColumn.descriptor result.connection.api.layout column values = .ok original := by
    obtain ⟨inside, _⟩ := List.getElem?_eq_some_iff.1 there
    have aimed := List.getElem?_eq_getElem (laid.length_eq ▸ inside)
    exact ⟨_, _, laid.descriptor_eq index _ original aimed there⟩
  obtain ⟨first, held, untouched⟩ := holds_of_interlude inProcess interlude
    (Engine.holds_of_result? kept) count fun original member => by
      obtain ⟨index, there⟩ := List.getElem?_of_mem member
      exact laidOut there
  obtain ⟨columns, final, fetched, length, known, _⟩ := fetchAll_of_holds inProcess held count
    (fun index whole => ∃ original, native.columns[index]? = some original ∧
      original.Yields result.connection.api.layout (fetches ≠ 0) whole)
    fun index original there current seen => by
      obtain ⟨output, values, ours⟩ := laidOut there
      obtain ⟨whole, passed, _⟩ :=
        OutputColumn.exists_materialize ours (seen.imp_right And.right) index
      refine ⟨whole, passed, original, there, current, index, ?_, by rw [passed]⟩
      refine seen.imp_right fun ⟨before, after⟩ => ⟨fun none => ?_, after⟩
      rw [untouched none] at before
      omega
  rw [laid.length_eq] at length
  refine ⟨table, targets, test, columns, final, selects, fetched, length, ?_⟩
  intro index target aimed
  refine ⟨selects.stores formed aimed, ?_⟩
  obtain ⟨inside, _⟩ := List.getElem?_eq_some_iff.1 aimed
  obtain ⟨column, there⟩ : ∃ column, columns.get? index = some column :=
    ⟨_, List.getElem?_eq_getElem (show index < columns.length by omega)⟩
  obtain ⟨whole, ⟨original, handed, yields⟩, cut⟩ := known index column there
  have shown : result.nativeRows = (table.matching test target.position).length := by
    rw [nativeRows, header, laid.rowCount_eq, Table.matching, List.length_map, Int.toNat_natCast]
  exact ⟨column, there, original, whole, laid.descriptor_eq _ _ _ aimed handed, yields,
    shown ▸ cut⟩

/-- The rows that are shown, when a column shows all of them. -/
theorem shows_cut {whole column : Column} {values : List Value} (shows : whole.Shows values)
    (cut : column = whole.truncate result.rowCount ∨
      column = whole ∧ result.rowCount = values.length) :
    column.Shows (values.take result.rowCount) := by
  rcases cut with rfl | ⟨rfl, all⟩
  · exact shows.truncate _
  · rwa [all, List.take_length]

/-- **Whatever happens between a query and a fetch of its result, the fetch succeeds, and every
column that is no decimal shows for each matching row what the stored cell reads back as.** -/
theorem fetchAll_plain (reachable : engine.Reachable)
    (answers : Answers engine database (.select name projection filter) parameters result selected)
    (layout : database.layout = result.connection.api.layout)
    (interlude : result.Interlude selected fetches later) :
    ∃ table targets test columns final,
      database.Selects name projection filter parameters table targets test ∧
      result.fetchAll later = (.ok columns, final) ∧ columns.length = targets.length ∧
      ∀ (index : Nat) (target : Table.Target), targets[index]? = some target →
        target.column.type.isDecimal = false →
        ∃ column, columns.get? index = some column ∧
          column.Shows (((table.matching test target.position).map
            target.column.type.readBack).take result.rowCount) := by
  obtain ⟨table, targets, test, columns, final, selects, fetched, length, each⟩ :=
    fetchAll_of_answers reachable answers layout interlude
  refine ⟨table, targets, test, columns, final, selects, fetched, length, ?_⟩
  intro index target aimed plain
  obtain ⟨stores, column, there, original, whole, laid, ⟨current, passed, seen, yields⟩, cut⟩ :=
    each index target aimed
  refine ⟨column, there, ?_⟩
  obtain ⟨same, pass, shows⟩ :=
    OutputColumn.materialize_plain laid plain stores (seen.imp_right And.right) passed
  rw [pass] at yields
  cases yields
  exact shows_cut shows (by rwa [List.length_map])

end Fetches

/-- Values at the edges of their types. -/
def edges : Table :=
  ⟨"t", [⟨"a", .integer .int8⟩, ⟨"b", .date⟩, ⟨"c", .decimal 5 2 (by decide)⟩,
      ⟨"d", .decimal 30 0 (by decide)⟩],
    [[.integer .int8 IntegerKind.int8.sentinel, .date ⟨0, 1, 1, by decide, by decide⟩,
      .decimal ⟨125, 2⟩, .decimal ⟨7, 0⟩]]⟩

/-- The table of edges is made and filled. -/
def edgesFilled : List Engine.Request :=
  [.openDatabase ⟨true⟩ true none none,
    .sql "CREATE TABLE t (a TINYINT, b DATE, c DECIMAL(5, 2), d DECIMAL(30))",
    .sql "INSERT INTO t VALUES (-128, '0000-01-01', 1.259, 7)"]

/-- A connection to the database that was opened. -/
def edgesOpened : Connection Engine :=
  ⟨Api.ofTable (Engine.functionTable ⟨true⟩) ⟨true⟩, ⟨.engine, 0⟩⟩

/-- The whole table of edges is asked for. -/
def edgesQueried : Except Error (Outcome Engine) × Engine :=
  edgesOpened.query "SELECT * FROM t" ⟨false, 0⟩ (Engine.after edgesFilled)

/-- The query is accepted and shows one row. -/
theorem queried_edges : ∃ database result,
    (Engine.after edgesFilled).database? (some edgesOpened.handle) = some database ∧
      database.layout = edgesOpened.api.layout ∧ database.catalog = ⟨[edges]⟩ ∧
      edgesQueried = (.ok (.rows result), edgesQueried.2) ∧
      result.connection.api.layout = edgesOpened.api.layout ∧ result.rowCount = 1 := by
  have held : ((Engine.after edgesFilled).database? (some ⟨.engine, 0⟩)).map
      (fun database => (database.layout, database.catalog)) = some (⟨true⟩, ⟨[edges]⟩) := by
    decide +kernel
  have shown : (match edgesQueried.1 with
      | .ok (.rows result) => some (result.connection.api.layout, result.rowCount)
      | _ => none) = some (⟨true⟩, 1) := by
    decide +kernel
  obtain ⟨database, opened, known⟩ := Option.map_eq_some_iff.1 held
  split at shown
  · next result answered =>
      obtain ⟨carried, catalog⟩ := Prod.mk.inj known
      obtain ⟨layout, count⟩ := Prod.mk.inj (Option.some.inj shown)
      have whole : edgesQueried = (.ok (.rows result), edgesQueried.2) := by
        rw [← answered]
      exact ⟨database, result, opened, carried, catalog, whole, layout, count⟩
  · cases shown

theorem parse_edges : Statement.parse "SELECT * FROM t" = .ok (.select "t" none none) := by
  decide +kernel

theorem answers_edges : ∃ database result,
    Answers (Engine.after edgesFilled) database (.select "t" none none) [] result edgesQueried.2 ∧
      database.layout = result.connection.api.layout ∧ result.rowCount = 1 ∧
      database.catalog = ⟨[edges]⟩ := by
  have inProcess : edgesOpened.InProcess := rfl
  obtain ⟨database, result, opened, carried, catalog, whole, layout, count⟩ := queried_edges
  exact ⟨database, result, .query inProcess opened parse_edges rfl whole,
    carried.trans layout.symm, count, catalog⟩

/-- The table, its columns and its row are found. -/
theorem matching_edges {database : Database} {table : Table} {targets : List Table.Target}
    {test : Row → Bool} (catalog : database.catalog = ⟨[edges]⟩)
    (selects : database.Selects "t" none none [] table targets test) :
    table = edges ∧ targets = edges.columns.zipIdx.map (fun entry => ⟨entry.2, entry.1⟩) ∧
      ∀ position, table.matching test position = edges.rows.map (Table.cell · position) := by
  obtain ⟨found, aimed, tested⟩ := selects
  rw [catalog] at found
  cases found
  cases aimed
  cases tested
  exact ⟨rfl, rfl, fun position => rfl⟩

/-- The least number of its type reads back as zero, and a day of the year zero as NULL, also
when the table is dropped before the fetch. -/
theorem fetchAll_plain_edges : ∃ database result,
    Answers (Engine.after edgesFilled) database (.select "t" none none) [] result edgesQueried.2 ∧
      ∃ columns final number day,
        result.fetchAll ((Engine.Request.sql "DROP TABLE t").perform edgesQueried.2) =
          (.ok columns, final) ∧
        columns.get? 0 = some number ∧ number.Shows [.integer .int8 IntegerKind.int8.zero] ∧
        columns.get? 1 = some day ∧ day.Shows [.null] := by
  obtain ⟨database, result, answers, layout, count, catalog⟩ := answers_edges
  obtain ⟨table, targets, test, columns, final, selects, fetched, _, each⟩ :=
    fetchAll_plain ⟨edgesFilled, rfl⟩ answers layout (.request .start (.sql "DROP TABLE t") trivial)
  obtain ⟨rfl, rfl, cells⟩ := matching_edges catalog selects
  obtain ⟨number, first, shows⟩ := each 0 _ rfl rfl
  obtain ⟨day, second, shown⟩ := each 1 _ rfl rfl
  rw [cells, count] at shows shown
  exact ⟨database, result, answers, columns, final, number, day, fetched, first, shows, second,
    shown⟩

section Decimals

variable {result : ResultSet Engine} {fetches : Nat}

/-- **The first fetch of a decimal column with a scale reads back every stored decimal.** -/
theorem fetchAll_decimal {digits scale : Nat} {valid : 0 < digits ∧ scale ≤ digits ∧ digits ≤ 38}
    {output : OutputColumn} {values : List Value} {column : Column}
    (declared : output.type = .decimal digits scale valid) (scaled : scale ≠ 0)
    (stores : ∀ value ∈ values, output.type.Stores value)
    (fetched : result.Fetches 0 output values column) :
    column.ShowsDecimals (values.take result.rowCount) := by
  obtain ⟨original, whole, laid, ⟨current, index, seen, yields⟩, cut⟩ := fetched
  obtain ⟨same, pass, shows, exact_⟩ :=
    OutputColumn.materialize_decimal declared scaled laid stores index
  rcases seen with rfl | ⟨again, _⟩
  · rw [pass] at yields
    cases yields
    refine ⟨shows_cut shows cut, fun row value found => ?_⟩
    rw [List.getElem?_take] at found
    split at found
    · next inside =>
        have whole := exact_ row value found
        rcases cut with rfl | ⟨rfl, _⟩
        · exact Column.decimal_truncate inside whole
        · exact whole
    · cases found
  · exact absurd rfl again

/-- **A fetch of a decimal column without a scale reads back the stored integers.** -/
theorem fetchAll_integer {digits : Nat} {valid : 0 < digits ∧ 0 ≤ digits ∧ digits ≤ 38}
    {output : OutputColumn} {values : List Value} {column : Column}
    (declared : output.type = .decimal digits 0 valid)
    (stores : ∀ value ∈ values, output.type.Stores value)
    (fetched : result.Fetches fetches output values column) :
    column.ShowsIntegers (DeclaredType.decimalStorage digits) (values.take result.rowCount) := by
  obtain ⟨original, whole, laid, ⟨current, index, seen, yields⟩, cut⟩ := fetched
  obtain ⟨same, pass, shows⟩ :=
    OutputColumn.materialize_integer declared laid (seen.imp_right And.right) index
  rw [pass] at yields
  cases yields
  have shown := shows_cut shows (by rwa [List.length_map])
  rw [← List.map_take] at shown
  have read {row : Nat} {stored : Value}
      (found : (values.take result.rowCount)[row]? = some stored) :=
    shown.value_eq row _ (by rw [List.getElem?_map, found, Option.map_some])
  have kept {row : Nat} {stored : Value}
      (found : (values.take result.rowCount)[row]? = some stored) :=
    OutputColumn.read_integer (declared ▸ stores stored
      (List.mem_of_mem_take (List.mem_of_getElem? found)))
  refine ⟨by rw [shown.length_eq, List.length_map], ?_, ?_⟩
  · intro row found
    rw [read found]
    rcases kept found with ⟨_, zero⟩ | ⟨number, other, _⟩
    · rw [zero]
    · cases other
  · intro row number found
    rcases kept found with ⟨other, _⟩ | ⟨cell, same, whole⟩
    · cases other
    · cases same
      exact ⟨cell, rfl, by rw [read found, whole]⟩

/-- **Decimals lose nothing between storage and the first fetch.** Their digits fit the widest
integer; what a value is coerced to is NULL or fits the integers it is stored as, where it is
not the one reserved for NULL; and whatever happens between a query and the first fetch of its
result, the stored decimals are read back, or their integers if the type has no scale. -/
theorem fetchAll_decimals (digits scale : Nat)
    (valid : 0 < digits ∧ scale ≤ digits ∧ digits ≤ 38) :
    (10 ^ digits : Int) ≤ IntegerKind.int128.maximum ∧
    (∀ value stored, (DeclaredType.decimal digits scale valid).coerce value = .ok stored →
      stored = .null ∨ ∃ cell : (DeclaredType.decimalStorage digits).Number,
        stored = .decimal (Decimal.fromUnscaled cell.val scale) ∧
        cell ≠ (DeclaredType.decimalStorage digits).sentinel ∧
        OutputColumn.storedInteger? scale stored = some cell.val ∧
        OutputColumn.fixedCell (.integer (DeclaredType.decimalStorage digits)) scale stored =
          cell) ∧
    ∀ {engine selected later : Engine} {database : Database} {name : String}
      {projection : Option (List String)} {filter : Option Filter} {parameters : List Value}
      {result : ResultSet Engine}, engine.Reachable →
      Answers engine database (.select name projection filter) parameters result selected →
      database.layout = result.connection.api.layout → result.Interlude selected 0 later →
      ∃ table targets test columns final,
        database.Selects name projection filter parameters table targets test ∧
        result.fetchAll later = (.ok columns, final) ∧
        ∀ (index : Nat) (target : Table.Target), targets[index]? = some target →
          target.column.type = .decimal digits scale valid →
          ∃ column, columns.get? index = some column ∧
            (scale ≠ 0 → column.ShowsDecimals
              ((table.matching test target.position).take result.rowCount)) ∧
            (scale = 0 → column.ShowsIntegers (DeclaredType.decimalStorage digits)
              ((table.matching test target.position).take result.rowCount)) := by
  refine ⟨?_, ?_, ?_⟩
  · exact (DeclaredType.pow_le_maximum valid.2.2).trans (DeclaredType.maximum_le_int128 digits).1
  · intro value stored coerced
    exact OutputColumn.decimal_of_stores (DeclaredType.stores_of_coerce_decimal coerced)
  · intro engine selected later database name projection filter parameters result reachable answers
      layout interlude
    obtain ⟨table, targets, test, columns, final, selects, fetched, _, each⟩ :=
      fetchAll_of_answers reachable answers layout interlude
    refine ⟨table, targets, test, columns, final, selects, fetched, ?_⟩
    intro index target aimed declared
    obtain ⟨stores, column, there, made⟩ := each index target aimed
    refine ⟨column, there, fun scaled => fetchAll_decimal declared scaled stores made, ?_⟩
    rintro rfl
    exact fetchAll_integer declared stores made

end Decimals

/-- The price is cut to the scale of its column when it is stored, and to nothing after that. -/
theorem fetchAll_decimals_edges : (0 < 5 ∧ 2 ≤ 5 ∧ 5 ≤ 38) ∧ (∃ database result,
    Answers (Engine.after edgesFilled) database (.select "t" none none) [] result edgesQueried.2 ∧
      ∃ columns final price, result.fetchAll edgesQueried.2 = (.ok columns, final) ∧
        columns.get? 2 = some price ∧ price.ShowsDecimals [.decimal ⟨125, 2⟩]) := by
  obtain ⟨database, result, answers, layout, count, catalog⟩ := answers_edges
  obtain ⟨_, _, kept⟩ := fetchAll_decimals 5 2 (by decide)
  obtain ⟨table, targets, test, columns, final, selects, fetched, each⟩ :=
    kept ⟨edgesFilled, rfl⟩ answers layout .start
  obtain ⟨rfl, rfl, cells⟩ := matching_edges catalog selects
  obtain ⟨price, third, decimals, _⟩ := each 2 _ rfl rfl
  have shows := decimals (by decide)
  rw [cells, count] at shows
  exact ⟨by decide, database, result, answers, columns, final, price, fetched, third, shows⟩

end ResultSet

end ColumnStore
