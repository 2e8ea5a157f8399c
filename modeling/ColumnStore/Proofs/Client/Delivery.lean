import ColumnStore.Proofs.Client.Binding
import ColumnStore.Proofs.Client.Caller
import ColumnStore.Proofs.Client.Select
import ColumnStore.Proofs.Engine.Lending
import ColumnStore.Proofs.Engine.Refusal
import ColumnStore.Proofs.Sql.RoundTrip

/-!
# Queries are delivered or refused

A query of an open database is refused for what it says, or answered with rows that can be
fetched as often as a caller likes; no other statement is answered with rows. This holds for a
query that is run directly and for one that is prepared, whatever is bound to its parameters and
requested of the engine until it is executed. That rows cannot be laid out, that a description
cannot be read, or that a tag names no type does not happen: the engine checks the types of a
table when the table is made, and its texts come from texts without NUL.

Main result: `Connection.Opens.delivers_or_refuses`.
-/

set_option autoImplicit false

namespace ColumnStore

/-! ## Calls are requests -/

/-- A call of the client makes requests to the engine and nothing else. -/
theorem Engine.accounts_reachable {api : Api Engine}
    (inProcess : api.table = functionTable api.layout) :
    api.Accounts fun _ engine => engine.Reachable :=
  accounts_of_kept inProcess fun _ reachable request => reachable.perform request

theorem Connection.reachable_prepare {connection : Connection Engine} {engine : Engine}
    (inProcess : connection.InProcess) (reachable : engine.Reachable) (text : String) :
    (connection.prepare text engine).2.Reachable :=
  connection.trades_prepare (Engine.accounts_reachable inProcess) text 0 engine reachable

/-- Whatever happens to a prepared statement, the engine stays reachable. -/
theorem PreparedStatement.reachable_of_bindings {prepared statement : PreparedStatement Engine}
    {start later : Engine} {given : List (Option Value)}
    (inProcess : prepared.connection.InProcess) (reachable : start.Reachable)
    (bindings : Bindings prepared start statement given later) : later.Reachable := by
  have accounts {statement : PreparedStatement Engine} {given : List (Option Value)}
      {later : Engine} (bindings : Bindings prepared start statement given later) :
      statement.connection.api.Accounts fun _ engine => engine.Reachable := by
    rw [connection_of_bindings bindings]
    exact Engine.accounts_reachable inProcess
  induction bindings with
  | start => exact reachable
  | request _ request _ ih => exact ih.perform request
  | bind earlier index value ih =>
      exact trades_update (accounts earlier) index (.value value) 0 _ ih
  | bindAs earlier type index datum ih =>
      exact trades_bindWith (accounts earlier) index (fun _ => Trades.settle _) 0 _ ih

/-! ## Delivered rows -/

/-- The result has a column for each target. Whatever happens before a fetch, the fetch succeeds,
and every column has the name and the storage type of its target and the rows that are shown. -/
structure ResultSet.Delivers (result : ResultSet Engine) (targets : List Table.Target)
    (selected : Engine) : Prop where
  columnCount_eq : result.columnCount = targets.length
  fetched : ∀ fetches later, result.Interlude selected fetches later →
    ∃ columns final, result.fetchAll later = (.ok columns, final) ∧
      columns.length = targets.length ∧
      ∀ (index : Nat) (target : Table.Target), targets[index]? = some target →
        ∃ column, columns.get? index = some column ∧
          column.Fits target.column.output result.rowCount

/-- What a statement may be answered with: a query with rows, whose columns are those that it asks
for in this order, and any other statement with a count of rows. -/
def Outcome.Suits (database : Database) (statement : Statement) (parameters : List Value)
    (selected : Engine) : Outcome Engine → Prop
  | .rows result => ∃ name projection filter table targets test,
      statement = .select name projection filter ∧
      database.Selects name projection filter parameters table targets test ∧
      targets.map (·.column.name) = projection.getD (table.columns.map (·.name)) ∧
      result.nativeRows = (table.rows.filter test).length ∧ result.Delivers targets selected
  | .updated _ => ∀ name projection filter, statement ≠ .select name projection filter

namespace Database

variable {database changed : Database} {statement : Statement} {parameters : List Value}
  {name : String} {projection : Option (List String)} {filter : Option Filter} {table : Table}
  {targets others : List Table.Target} {test : Row → Bool}

/-- Only queries return rows. -/
theorem exists_select_of_rows {native : NativeResult}
    (executed : database.execute statement parameters = .ok (changed, .rows native)) :
    ∃ name projection filter, statement = .select name projection filter := by
  cases execute_eq_ok.1 executed with
  | select found selected laidOut => exact ⟨_, _, _, rfl⟩

/-- A query finds one table, and in it certain columns and rows. -/
theorem Selects.unique {other : Table} {another : Row → Bool}
    (selects : database.Selects name projection filter parameters table targets test)
    (again : database.Selects name projection filter parameters other others another) :
    table = other ∧ targets = others ∧ test = another := by
  obtain ⟨found, aimed, tested⟩ := selects
  obtain ⟨same, named, checked⟩ := again
  cases found.symm.trans same
  cases aimed.symm.trans named
  cases tested.symm.trans checked
  exact ⟨rfl, rfl, rfl⟩

/-- A query that was read asks for some column. -/
theorem Selects.targets_ne_nil
    (selects : database.Selects name projection filter parameters table targets test)
    (formed : database.WellFormed) {text : String}
    (spelled : Statement.parse text = .ok (.select name projection filter)) : targets ≠ [] := by
  intro none
  have names := Table.names_of_targets selects.targets_eq
  rw [none, List.map_nil] at names
  cases projection with
  | none =>
      exact (formed.find selects.table_eq).columns_ne_nil (List.map_eq_nil_iff.1 names.symm)
  | some listed =>
      have grammar := (Statement.inGrammar_of_parse spelled).1.formed
      exact (grammar.2.1 listed rfl).1 names.symm

end Database

theorem Column.Fits.truncate {column : Column} {output : OutputColumn} {count rows : Nat}
    (fits : column.Fits output count) (inside : rows ≤ count) :
    (column.truncate rows).Fits output rows := by
  refine ⟨fits.name_eq, ?_, by rw [length_truncate, fits.length_eq, Nat.min_eq_left inside]⟩
  rw [← fits.type_eq]
  obtain ⟨name, data⟩ := column
  cases data <;> rfl

namespace ResultSet

variable {engine selected : Engine} {database : Database} {statement : Statement}
  {parameters : List Value} {result : ResultSet Engine}

/-- A column that is fetched has the rows that are shown. -/
theorem Fetches.fits {earlier : Nat} {output : OutputColumn} {values : List Value}
    {column : Column} (fetches : result.Fetches earlier output values column)
    (shown : result.rowCount ≤ values.length) : column.Fits output result.rowCount := by
  obtain ⟨original, whole, laid, ⟨current, index, seen, yields⟩, cut⟩ := fetches
  obtain ⟨fetched, pass, fits⟩ :=
    OutputColumn.exists_materialize laid (seen.imp_right And.right) index
  rw [pass] at yields
  cases yields
  rcases cut with rfl | ⟨rfl, all⟩
  · exact fits.truncate shown
  · rwa [all]

/-- **Rows are the answer to a query**, and they can be fetched as often as one likes. -/
theorem suits_of_answers (reachable : engine.Reachable)
    (answers : Answers engine database statement parameters result selected)
    (layout : database.layout = result.connection.api.layout) :
    (Outcome.rows result).Suits database statement parameters selected := by
  obtain ⟨changed, native, executed, header, _⟩ := answers.run
  obtain ⟨name, projection, filter, rfl⟩ := Database.exists_select_of_rows executed
  obtain ⟨_, _, rows, table, targets, test, selects, laid⟩ :=
    Database.selected_of_execute executed
  cases rows
  have count : result.nativeRows = (table.rows.filter test).length := by
    rw [nativeRows, header, laid.rowCount_eq, Int.toNat_natCast]
  refine ⟨name, projection, filter, table, targets, test, rfl, selects,
    Table.names_of_targets selects.targets_eq, count, ?_, fun fetches later interlude => ?_⟩
  · rw [columnCount, header, laid.columnCount_eq]
  · obtain ⟨_, _, _, columns, final, again, fetched, length, each⟩ :=
      fetchAll_of_answers reachable answers layout interlude
    obtain ⟨rfl, rfl, rfl⟩ := selects.unique again
    refine ⟨columns, final, fetched, length, fun index target aimed => ?_⟩
    obtain ⟨_, column, there, fetches⟩ := each index target aimed
    refine ⟨column, there, fetches.fits ?_⟩
    rw [Table.matching, List.length_map, ← count]
    exact result.rowCount_le

end ResultSet

/-! ## Refusals -/

/-- The error that tells a caller of a failure of the engine. -/
def Failure.reported (failure : Failure) (entry : EntryPoint) : Error :=
  .native entry (NativeText.blankingNul failure.message).toString

namespace Outcome

variable {engine : Engine} {database changed : Database} {home : Handle .database}
  {reply : StateM Engine (Reply Executed)} (connection : Connection Engine) (entry : EntryPoint)
  (options : QueryOptions)

theorem error_of_run {failure : Failure}
    (ran : reply engine = Engine.run home database true (.error failure) engine) :
    ((Api.check entry reply >>= fun executed => ofExecuted connection executed options)
      engine).1 = .error (failure.reported entry) := by
  have refused : reply engine = (.error (NativeText.blankingNul failure.message), _) := ran
  rw [Call.bind_of_error (Api.check_of_error refused)]
  rfl

theorem exists_rows_of_run {native : NativeResult} (columns : 0 < native.header.columnCount)
    (ran : reply engine = Engine.run home database true (.ok (changed, .rows native)) engine) :
    ∃ result, ((Api.check entry reply >>= fun executed => ofExecuted connection executed options)
      engine).1 = .ok (.rows result) := by
  obtain ⟨live, selected, accepted, header⟩ : ∃ live selected,
      reply engine = (.ok ⟨some live, native.header.rowCount⟩, selected) ∧
        live.header = native.header :=
    ⟨_, _, ran, rfl⟩
  rw [Call.bind_of_ok (Api.check_of_ok accepted), ofExecuted_of_columns (header ▸ columns)]
  exact ⟨_, rfl⟩

/-- A query that the engine runs is refused for a reason of its own or answered with rows. -/
theorem select_of_run {text name : String} {projection : Option (List String)}
    {filter : Option Filter} {parameters : List Value} (formed : database.WellFormed)
    (spelled : Statement.parse text = .ok (.select name projection filter))
    (ran : reply engine = Engine.run home database true
      (database.execute (.select name projection filter) parameters) engine) :
    let answer := (Api.check entry reply >>= fun executed =>
      ofExecuted connection executed options) engine
    (∃ failure, database.RefusesQuery name projection filter parameters failure ∧
      answer.1 = .error (failure.reported entry)) ∨ ∃ result, answer.1 = .ok (.rows result) := by
  cases executed : database.execute (.select name projection filter) parameters with
  | error failure =>
      rw [executed] at ran
      exact .inl ⟨failure,
        Database.failsFor_execute_select formed name projection filter parameters failure executed,
        error_of_run connection entry options ran⟩
  | ok answer =>
      obtain ⟨changed, effect⟩ := answer
      obtain ⟨_, native, rfl, table, targets, test, selects, laid⟩ :=
        Database.selected_of_execute executed
      rw [executed] at ran
      refine .inr (exists_rows_of_run connection entry options ?_ ran)
      -- rows without columns would be taken for a count of rows
      rw [laid.columnCount_eq]
      exact List.length_pos_of_ne_nil (selects.targets_ne_nil formed spelled)

/-- **A statement that the engine runs is answered with what suits it**, and a query is refused
for a reason of its own. -/
theorem suits_of_run {text : String} {statement : Statement} {parameters : List Value}
    {outcome : Except Error (Outcome Engine)} {selected : Engine} (reachable : engine.Reachable)
    (opened : engine.database? (some home) = some database)
    (layout : database.layout = connection.api.layout)
    (spelled : Statement.parse text = .ok statement)
    (ran : reply engine =
      Engine.run home database true (database.execute statement parameters) engine)
    (answered : (Api.check entry reply >>= fun executed =>
      ofExecuted connection executed options) engine = (outcome, selected))
    (answers : ∀ result, outcome = .ok (.rows result) →
      ResultSet.Answers engine database statement parameters result selected) :
    (∀ name projection filter, statement = .select name projection filter →
      outcome.FailsFor fun error => ∃ failure,
        database.RefusesQuery name projection filter parameters failure ∧
          error = failure.reported entry) ∧
    ∀ answer, outcome = .ok answer → answer.Suits database statement parameters selected := by
  have formed := (Engine.wellFormed_of_reachable reachable).onDatabase opened
  have whole := congrArg Prod.fst answered
  have select {name : String} {projection : Option (List String)} {filter : Option Filter}
      (same : statement = .select name projection filter) :=
    select_of_run connection entry options formed (same ▸ spelled) (same ▸ ran)
  constructor
  · rintro name projection filter same error rfl
    obtain ⟨failure, refused, reported⟩ | ⟨result, shown⟩ := select same
    · cases whole.symm.trans reported
      exact ⟨failure, refused, rfl⟩
    · cases whole.symm.trans shown
  · rintro answer rfl
    cases answer with
    | rows result =>
        refine ResultSet.suits_of_answers reachable (answers result rfl) ?_
        -- the result is fetched on the connection, so with the layout of the database
        obtain ⟨executed, middle, _, taken⟩ := Call.bind_eq_ok.1 answered
        rw [(ofExecuted_rows taken).2.2.1]
        exact layout
    | updated count =>
        intro name projection filter same
        obtain ⟨failure, refused, reported⟩ | ⟨result, shown⟩ := select same
        · cases whole.symm.trans reported
        · cases whole.symm.trans shown

end Outcome

/-- The text spells a query, if it spells a statement. -/
def Statement.OnlyQuery (text : String) : Prop :=
  ∀ statement, parse text = .ok statement →
    ∃ name projection filter, statement = .select name projection filter

/-- Why a text is refused by an entry: it has a NUL, it does not parse, or the query that it
spells is refused. -/
inductive Connection.Refused (entry : EntryPoint) (text : String)
    (query : String → Option (List String) → Option Filter → Failure → Prop) : Error → Prop
  | nul (inside : ¬NulFree text.toList) : Refused entry text query .interiorNul
  | unread {failure : Failure} (unread : Statement.parse text = .error failure) :
      Refused entry text query (failure.reported entry)
  | query {name : String} {projection : Option (List String)} {filter : Option Filter}
      {failure : Failure} (spelled : Statement.parse text = .ok (.select name projection filter))
      (refused : query name projection filter failure) :
      Refused entry text query (failure.reported entry)

/-- Why a prepared query is refused when it is executed: for a parameter that nothing was bound
to, neither as the engine has it nor as it was given, or for a reason that the query itself has. -/
inductive StoredStatement.RefusesQuery (stored : StoredStatement) (given : List (Option Value))
    (database : Database) (name : String) (projection : Option (List String))
    (filter : Option Filter) : Failure → Prop
  | unbound {index : Nat} (unbound : stored.bound[index]? = some none)
      (ungiven : given[index]? = some none) :
      RefusesQuery stored given database name projection filter (.unboundParameter index)
  | query {values : List Value} {failure : Failure} (bound : stored.values = .ok values)
      (refused : database.RefusesQuery name projection filter values failure) :
      RefusesQuery stored given database name projection filter failure

theorem StoredStatement.failsFor_values (stored : StoredStatement) : Except.FailsFor
    (fun failure => ∃ index, stored.bound[index]? = some none ∧ failure = .unboundParameter index)
    stored.values := by
  refine Except.FailsFor.mapM fun entry member failure failed => ?_
  split at failed
  · cases failed
  · next unbound =>
      cases failed
      exact ⟨entry.2, unbound ▸ List.mem_zipIdx_iff_getElem?.1 member, rfl⟩

namespace Connection

/-- The connection leads to a database that is open in a reachable engine, and knows its layout. -/
structure Opens (connection : Connection Engine) (engine : Engine) (database : Database) : Prop where
  inProcess : connection.InProcess
  reachable : engine.Reachable
  opened : engine.database? (some connection.handle) = some database
  layout_eq : database.layout = connection.api.layout

variable {connection : Connection Engine} {engine : Engine} {database : Database} {text : String}

theorem Opens.wellFormed (opens : connection.Opens engine database) : database.WellFormed :=
  (Engine.wellFormed_of_reachable opens.reachable).onDatabase opens.opened

theorem nul_of_terminated {error : Error} (refused : terminated text = .error error) :
    error = .interiorNul ∧ ¬NulFree text.toList := by
  unfold terminated at refused
  split at refused
  · cases refused
  · next missing =>
      cases refused
      exact ⟨rfl, NativeText.ofString?_eq_none.1 missing⟩

theorem query_of_nul {options : QueryOptions} {error : Error}
    (refused : terminated text = .error error) :
    connection.query text options engine = (.error error, engine) := by
  have settled : Api.settle (terminated text) engine = (.error error, engine) := by
    rw [refused]
    rfl
  unfold query
  exact Call.bind_of_error settled

theorem query_of_terminated {options : QueryOptions} {sent : NativeText}
    (handed : terminated text = .ok sent) :
    connection.query text options engine =
      (Api.check .query (connection.api.table.query (some connection.handle) (some sent)) >>=
        fun executed => Outcome.ofExecuted connection executed options) engine := by
  unfold query
  rw [Call.bind_of_ok (Api.settle_eq_ok.2 ⟨handed, rfl⟩)]
  rfl

/-- **A query that is run directly** is refused for what it says or answered with its rows. -/
theorem Opens.query (opens : connection.Opens engine database) {options : QueryOptions}
    {outcome : Except Error (Outcome Engine)} {selected : Engine}
    (answered : connection.query text options engine = (outcome, selected)) :
    (Statement.OnlyQuery text → outcome.FailsFor (Refused .query text
      fun name projection filter => database.RefusesQuery name projection filter [])) ∧
    ∀ answer, outcome = .ok answer → ∃ statement, Statement.parse text = .ok statement ∧
      answer.Suits database statement [] selected := by
  cases handed : terminated text with
  | error refusal =>
      obtain ⟨rfl, inside⟩ := nul_of_terminated handed
      cases (query_of_nul handed).symm.trans answered
      constructor
      · rintro _ error ⟨⟩
        exact .nul inside
      · rintro answer ⟨⟩
  | ok sent =>
      have ran := query_inProcess opens.inProcess opens.opened handed
      have whole := congrArg Prod.fst ((query_of_terminated handed).symm.trans answered)
      cases spelled : Statement.parse text with
      | error failure =>
          rw [spelled] at ran
          rw [Outcome.error_of_run connection .query options ran] at whole
          cases whole
          constructor
          · rintro _ error ⟨⟩
            exact .unread spelled
          · rintro answer ⟨⟩
      | ok statement =>
          rw [spelled] at ran
          obtain ⟨refused, suits⟩ := Outcome.suits_of_run connection .query options
            opens.reachable opens.opened opens.layout_eq spelled ran
            ((query_of_terminated handed).symm.trans answered) fun result same =>
              .query opens.inProcess opens.opened spelled rfl (same ▸ answered)
          refine ⟨fun only error same => ?_, fun answer same => ⟨statement, rfl, suits answer same⟩⟩
          obtain ⟨name, projection, filter, rfl⟩ := only statement spelled
          obtain ⟨failure, reason, rfl⟩ := refused name projection filter rfl error same
          exact .query spelled reason

/-- What the database does not prepare is refused. -/
theorem Opens.error_of_prepare (opens : connection.Opens engine database) {sent : NativeText}
    {failure : Failure} (handed : terminated text = .ok sent)
    (refused : (do database.prepare connection.handle (← Statement.parse text)) =
      .error failure) :
    (connection.prepare text engine).1 = .error (failure.reported .prepare) := by
  have entry : connection.api.table.prepare (some connection.handle) (some sent) engine =
      Engine.refuse connection.handle database failure engine := by
    rw [opens.inProcess]
    rw [← toString_of_terminated handed] at refused
    exact Engine.prepare_of_error opens.opened refused
  have denied : connection.api.table.prepare (some connection.handle) (some sent) engine =
      (.error (NativeText.blankingNul failure.message), _) := entry
  have checked : connection.api.prepare connection.handle sent engine =
      (.error (failure.reported .prepare), _) :=
    Call.bind_of_error (Api.check_of_error denied)
  unfold prepare
  rw [Call.bind_of_ok (Api.settle_eq_ok.2 ⟨handed, rfl⟩), Call.bind_of_error checked]

/-- **A query that is prepared** is refused for what it says. -/
theorem Opens.prepare (opens : connection.Opens engine database) (only : Statement.OnlyQuery text)
    {outcome : Except Error (PreparedStatement Engine)} {start : Engine}
    (answered : connection.prepare text engine = (outcome, start)) :
    outcome.FailsFor (Refused .prepare text database.Lacks) := by
  rintro error rfl
  cases handed : terminated text with
  | error refusal =>
      obtain ⟨rfl, inside⟩ := nul_of_terminated handed
      have settled : Api.settle (terminated text) engine = (.error .interiorNul, engine) := by
        rw [handed]
        rfl
      cases (Call.bind_of_error settled).symm.trans answered
      exact .nul inside
  | ok sent =>
      cases spelled : Statement.parse text with
      | error failure =>
          have attempt : (do database.prepare connection.handle (← Statement.parse text)) =
              .error failure := by
            rw [spelled]
            rfl
          cases (congrArg Prod.fst answered).symm.trans (opens.error_of_prepare handed attempt)
          exact .unread spelled
      | ok parsed =>
          obtain ⟨name, projection, filter, rfl⟩ := only parsed spelled
          cases made : database.prepare connection.handle (.select name projection filter) with
          | error failure =>
              have attempt : (do database.prepare connection.handle (← Statement.parse text)) =
                  .error failure := by
                rw [spelled]
                exact made
              cases (congrArg Prod.fst answered).symm.trans (opens.error_of_prepare handed attempt)
              exact .query spelled (Database.failsFor_prepare_select opens.wellFormed _ _ _ _
                failure made)
          | ok preparation =>
              obtain ⟨_, statement, last, _, prepared, _⟩ := PreparedStatement.exists_prepare
                opens.inProcess opens.opened opens.layout_eq handed spelled made
              cases prepared.symm.trans answered

end Connection

namespace PreparedStatement

variable {statement : PreparedStatement Engine} {parsed : Statement}
  {parameters : List DeclaredType} {given : List (Option Value)} {later : Engine} {now : Database}
  {text : String}

/-- **A query that was prepared** is refused for what was not bound or for what it says, or
answered with its rows. -/
theorem Tracks.delivers (tracks : Tracks statement statement.connection.handle parsed parameters
      given later)
    (reachable : later.Reachable) (spelled : Statement.parse text = .ok parsed)
    (present : later.database? (some statement.connection.handle) = some now) :
    ∃ stored, later.statement? (some statement.handle) = some stored ∧
      ∀ options outcome selected, statement.execute options later = (outcome, selected) →
        (∀ name projection filter, parsed = .select name projection filter →
          outcome.FailsFor fun error => ∃ failure,
            stored.RefusesQuery given now name projection filter failure ∧
              error = failure.reported .execute) ∧
        ∀ answer, outcome = .ok answer → ∃ values, stored.values = .ok values ∧
          answer.Suits now parsed values selected := by
  obtain ⟨bound, kept, binds⟩ := tracks.kept
  let stored : StoredStatement := ⟨statement.connection.handle, parsed, parameters, bound⟩
  refine ⟨stored, kept, fun options outcome selected answered => ?_⟩
  have ran := execute_inProcess tracks.inProcess kept present
  cases valued : stored.values with
  | error failure =>
      obtain ⟨index, unbound, rfl⟩ := stored.failsFor_values failure valued
      rw [valued] at ran
      cases (congrArg Prod.fst answered).symm.trans
        (Outcome.error_of_run statement.connection .execute options ran)
      constructor
      · rintro name projection filter _ error ⟨⟩
        exact ⟨_, .unbound unbound (binds.given_eq_none unbound), rfl⟩
      · rintro answer ⟨⟩
  | ok values =>
      rw [valued] at ran
      obtain ⟨refused, suits⟩ := Outcome.suits_of_run statement.connection .execute options
        reachable present (tracks.opened.layout_of_database? present) spelled ran answered
        fun result same => .execute tracks.inProcess kept present rfl valued (same ▸ answered)
      refine ⟨fun name projection filter same error failed => ?_, fun answer same =>
        ⟨values, rfl, suits answer same⟩⟩
      obtain ⟨failure, reason, reported⟩ := refused name projection filter same error failed
      exact ⟨failure, .query valued reason, reported⟩

end PreparedStatement

/-- **A query of an open database is delivered or refused for what it says**, and only queries
are answered with rows. Run directly, it is refused for its text, for what it names, for a
placeholder or for a value that does not suit its column; to prepare it is only refused for its
text and for what it names, and to execute it later, whatever was bound and requested in between,
for a parameter without a value or for what it says of the tables as they are then. -/
theorem Connection.Opens.delivers_or_refuses {connection : Connection Engine} {engine : Engine}
    {database : Database} (opens : connection.Opens engine database) (text : String) :
    (∀ options outcome selected, connection.query text options engine = (outcome, selected) →
      (Statement.OnlyQuery text → outcome.FailsFor (Refused .query text
        fun name projection filter => database.RefusesQuery name projection filter [])) ∧
      ∀ answer, outcome = .ok answer → ∃ statement, Statement.parse text = .ok statement ∧
        answer.Suits database statement [] selected) ∧
    ∀ outcome start, connection.prepare text engine = (outcome, start) →
      (Statement.OnlyQuery text → outcome.FailsFor (Refused .prepare text database.Lacks)) ∧
      ∀ prepared, outcome = .ok prepared → ∃ parsed, Statement.parse text = .ok parsed ∧
        ∀ statement given later now, PreparedStatement.Bindings prepared start statement given later →
          later.database? (some connection.handle) = some now →
          ∃ stored, later.statement? (some statement.handle) = some stored ∧
            ∀ options outcome selected, statement.execute options later = (outcome, selected) →
              (∀ name projection filter, parsed = .select name projection filter →
                outcome.FailsFor fun error => ∃ failure,
                  stored.RefusesQuery given now name projection filter failure ∧
                    error = failure.reported .execute) ∧
              ∀ answer, outcome = .ok answer → ∃ values, stored.values = .ok values ∧
                answer.Suits now parsed values selected := by
  refine ⟨fun options outcome selected => opens.query, fun outcome start answered =>
    ⟨fun only => opens.prepare only answered, ?_⟩⟩
  rintro prepared rfl
  obtain ⟨_, parsed, parameters, found, spelled, _, _, same, tracks⟩ :=
    PreparedStatement.tracks_of_prepare opens.inProcess
      (fun other there => Option.some.inj (opens.opened.symm.trans there) ▸ opens.layout_eq)
      answered
  refine ⟨parsed, spelled, fun statement given later now bindings present => ?_⟩
  -- the tables may be others by now, but the engine is reachable and keeps the statement
  have connected : statement.connection = connection :=
    (PreparedStatement.connection_of_bindings bindings).trans same
  have reachable : later.Reachable := by
    refine PreparedStatement.reachable_of_bindings (same ▸ opens.inProcess) ?_ bindings
    have start := Connection.reachable_prepare opens.inProcess opens.reachable text
    rwa [answered] at start
  have tracked := PreparedStatement.tracks_of_bindings tracks bindings
  rw [← connected] at tracked present
  exact tracked.delivers reachable spelled present

/-- The table of edges is shown in its four columns, with its one row at the second fetch too. -/
theorem Connection.delivers_edges : ∃ database result columns final again last day,
    ResultSet.edgesOpened.Opens (Engine.after ResultSet.edgesFilled) database ∧
      ResultSet.edgesQueried.1 = .ok (.rows result) ∧ result.columnCount = 4 ∧
      result.fetchAll ResultSet.edgesQueried.2 = (.ok columns, final) ∧
      result.fetchAll final = (.ok again, last) ∧ again.length = 4 ∧
      again.get? 1 = some day ∧ day.Fits ⟨"b", .date⟩ 1 := by
  obtain ⟨database, result, opened, layout, catalog, whole, _, count⟩ := ResultSet.queried_edges
  have opens : ResultSet.edgesOpened.Opens (Engine.after ResultSet.edgesFilled) database :=
    ⟨rfl, ⟨ResultSet.edgesFilled, rfl⟩, opened, layout⟩
  obtain ⟨statement, read, suits⟩ :=
    ((opens.delivers_or_refuses "SELECT * FROM t").1 _ _ _ whole).2 _ rfl
  cases ResultSet.parse_edges.symm.trans read
  obtain ⟨name, projection, filter, table, targets, test, same, selects, _, _, delivers⟩ := suits
  cases same
  obtain ⟨rfl, rfl, _⟩ := ResultSet.matching_edges catalog selects
  obtain ⟨columns, final, first, _⟩ := delivers.fetched 0 _ .start
  obtain ⟨again, last, second, length, each⟩ := delivers.fetched 1 _ (.fetch .start)
  obtain ⟨day, there, fits⟩ := each 1 _ rfl
  rw [first] at second
  exact ⟨database, result, columns, final, again, last, day, opens, congrArg Prod.fst whole,
    delivers.columnCount_eq, first, second, length, there, count ▸ fits⟩

end ColumnStore
