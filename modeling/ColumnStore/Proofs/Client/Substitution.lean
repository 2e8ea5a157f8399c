import ColumnStore.Proofs.Client.Binding
import ColumnStore.Proofs.Client.Select
import ColumnStore.Proofs.Engine.Atomicity
import ColumnStore.Proofs.Engine.Substitution
import ColumnStore.Proofs.Engine.Table
import ColumnStore.Proofs.Lists
import ColumnStore.Proofs.Sql.RoundTrip

/-!
# Executing with parameters or with literals

A prepared statement whose parameters have values does what the statement with literals for
these values does when it is run directly: it has the same outcome and leaves the same engine, or
both are refused and only the last error tells them apart
(`PreparedStatement.sameEffect_execute`). A literal stands for a value if it is the same, cut to
whole milliseconds as parameters are; an integer may be written in any width. Values whose native
form is reserved for NULL are left out, and so are floating point numbers for decimals with a
scale, which reach a parameter by way of their shortest decimal text. Of the tables, only the
columns have to be those of the time when the statement was prepared.
-/

set_option autoImplicit false

namespace ColumnStore

/-! ## Running a statement directly -/

namespace Connection

variable {connection : Connection Engine}

/-- Run a statement, as a query does with the one that its text spells. -/
def submit (connection : Connection Engine) (statement : Statement) (options : QueryOptions) :
    Call Engine (Outcome Engine) := do
  let executed ← Api.check .query (Engine.onDatabase (some connection.handle)
    fun handle database => Engine.run handle database true (database.execute statement []))
  Outcome.ofExecuted connection executed options

/-- A query runs the statement that its text spells. -/
theorem query_eq_submit (inProcess : connection.InProcess) {text : String} {sent : NativeText}
    {statement : Statement} (handed : terminated text = .ok sent)
    (spelled : Statement.parse text = .ok statement) (options : QueryOptions) :
    connection.query text options = connection.submit statement options := by
  have read : Statement.parse sent.toString = .ok statement := by
    rwa [toString_of_terminated handed]
  have entry : connection.api.table.query (some connection.handle) (some sent) =
      Engine.onDatabase (some connection.handle) fun handle database =>
        Engine.run handle database true (database.execute statement []) := by
    rw [inProcess]
    show Engine.query (some connection.handle) (some sent) true = _
    unfold Engine.query
    dsimp only
    rw [read]
    rfl
  unfold query submit Api.query
  funext state
  have settled : Api.settle (terminated text) state = (.ok sent, state) :=
    Api.settle_eq_ok.2 ⟨handed, rfl⟩
  rw [Call.bind_of_ok settled, entry]

end Connection

/-! ## Effects -/

/-- Two calls had the same effect: the outcomes and the engines are the same, or the database
refused both and has another last error, and nothing else is changed. -/
inductive SameEffect {α : Type} (home : Handle .database) (before : Engine) :
    Except Error α × Engine → Except Error α × Engine → Prop
  | same (answer : Except Error α × Engine) : SameEffect home before answer answer
  | refused (error other : Error) (text another : NativeText) :
      SameEffect home before (.error error, before.report (some home) text)
        (.error other, before.report (some home) another)

/-- Statements that are run alike have the same effect, whatever entry they are run by. -/
theorem sameEffect_run {connection : Connection Engine} {home : Handle .database}
    {database : Database} {engine : Engine} {first second : EntryPoint}
    {left right : StateM Engine (Reply Executed)}
    {attempt other : Except Failure (Database × Effect)}
    (found : engine.database? (some home) = some database)
    (ran : left engine = Engine.run home database true attempt engine)
    (direct : right engine = Engine.run home database true other engine)
    (alike : Except.Alike attempt other) (options : QueryOptions) :
    SameEffect home engine
      ((Api.check first left >>= fun executed =>
        Outcome.ofExecuted connection executed options) engine)
      ((Api.check second right >>= fun executed =>
        Outcome.ofExecuted connection executed options) engine) := by
  cases alike with
  | ok answer =>
      obtain ⟨executed, handed⟩ := Engine.handOut_ok answer.2 true
        (engine.setDatabase home answer.1)
      have whole : Engine.run home database true (.ok answer) engine =
          (.ok executed, (Engine.run home database true (.ok answer) engine).2) :=
        Prod.ext handed rfl
      rw [Call.bind_of_ok (Api.check_of_ok (ran.trans whole)),
        Call.bind_of_ok (Api.check_of_ok (direct.trans whole))]
      exact .same _
  | error failure refusal =>
      -- what is refused is reported, and nothing else is done
      obtain ⟨text, changed, refused⟩ : ∃ text changed,
          Engine.run home database true (.error failure) engine = (.error text, changed) :=
        ⟨_, _, rfl⟩
      obtain ⟨another, altered, denied⟩ : ∃ text changed,
          Engine.run home database true (.error refusal) engine = (.error text, changed) :=
        ⟨_, _, rfl⟩
      obtain rfl := Engine.reports_refuse found failure text changed refused
      obtain rfl := Engine.reports_refuse found refusal another altered denied
      rw [Call.bind_of_error (Api.check_of_error (ran.trans refused)),
        Call.bind_of_error (Api.check_of_error (direct.trans denied))]
      exact .refused _ _ text another

/-! ## Literals for values -/

/-- Once a statement is prepared, what is recorded for its parameters and the literals that stand
for their values are coerced alike, as long as the table has the same columns. -/
theorem Statement.matches_of_records {database now : Database} {statement : Statement}
    {parameters : List DeclaredType} {values literals recorded : List Value}
    (typed : database.parameterTypes statement = .ok parameters)
    (inOrder : statement.placeholders = List.range statement.placeholders.length)
    (complete : parameters.length = statement.placeholders.length)
    (records : DeclaredType.RecordsEach parameters values recorded)
    (admitted : List.Forall₂ DeclaredType.Admits parameters values)
    (written : List.Forall₂ Value.IsWritten values literals)
    (unchanged : (now.catalog.find? statement.table).map (·.columns) =
      (database.catalog.find? statement.table).map (·.columns))
    {table : Table} (found : now.catalog.table statement.table = .ok table) :
    statement.Matches table recorded literals := by
  rw [Catalog.table_eq_ok] at found
  rw [found] at unchanged
  obtain ⟨before, known, columns⟩ := Option.map_eq_some_iff.1 unchanged.symm
  intro target expression used
  have before_used : statement.UsedFor before target expression := by
    -- which column is used is seen from the columns, whatever the rows are
    have name : before.name = table.name :=
      (Catalog.name_of_find? known).trans (Catalog.name_of_find? found).symm
    obtain ⟨_, _, _⟩ := before
    obtain ⟨_, _, _⟩ := table
    cases name
    cases columns
    cases statement <;> exact used
  cases expression with
  | literal value => exact .refl _
  | placeholder index =>
      have named := Database.type_of_usedFor typed inOrder complete
        (Catalog.table_eq_ok.2 known) before_used
      obtain ⟨value, content, given, bound, known⟩ := records index _ named
      obtain ⟨_, same, admits⟩ := admitted.exists_getElem? named
      cases given.symm.trans same
      obtain ⟨literal, put, stands⟩ := written.exists_getElem? given
      have left : target.coerce recorded (.placeholder index) =
          target.column.type.coerce content := by
        simp only [Table.Target.coerce, Expression.resolve, bound]
        rfl
      have right : target.coerce [] ((Expression.placeholder index).instantiate literals) =
          target.column.type.coerce literal := by
        simp only [Table.Target.coerce, Expression.instantiate, put]
        rfl
      rw [left, right]
      exact (known.coerce_alike admits).trans (DeclaredType.coerce_alike_of_isWritten stands)

namespace PreparedStatement

section Substitution

variable {connection : Connection Engine} {text : String} {engine start later : Engine}
  {prepared statement : PreparedStatement Engine} {database now : Database} {parsed : Statement}
  {parameters : List DeclaredType} {values literals : List Value}

/-- What the engine does when a statement is executed whose parameters all have values. -/
theorem Tracks.execute {home : Handle .database}
    (tracks : Tracks statement home parsed parameters (values.map some) later)
    (present : later.database? (some home) = some now) :
    ∃ recorded, statement.connection.api.table.execute (some statement.handle) later =
        Engine.run home now true (now.execute parsed recorded) later ∧
      DeclaredType.RecordsEach parameters values recorded := by
  obtain ⟨bound, kept, binds⟩ := tracks.kept
  obtain ⟨recorded, known, records⟩ := binds.exists_recorded
  have all : (⟨home, parsed, parameters, bound⟩ : StoredStatement).values = .ok recorded :=
    StoredStatement.values_of_bound known
  refine ⟨recorded, ?_, records⟩
  rw [execute_inProcess tracks.inProcess kept present, all]
  rfl

/-- **Executing a statement with values for its parameters has the same effect as running it with
literals in their place**, whatever was bound and requested since it was prepared. -/
theorem sameEffect_execute (inProcess : connection.InProcess)
    (opened : engine.database? (some connection.handle) = some database)
    (matching : database.layout = connection.api.layout)
    (accepted : connection.prepare text engine = (.ok prepared, start))
    (spelled : Statement.parse text = .ok parsed)
    (typed : database.parameterTypes parsed = .ok parameters)
    (complete : parameters.length = parsed.placeholders.length)
    (bindings : Bindings prepared start statement (values.map some) later)
    (admitted : List.Forall₂ DeclaredType.Admits parameters values)
    (written : List.Forall₂ Value.IsWritten values literals)
    (present : later.database? (some connection.handle) = some now)
    (unchanged : (now.catalog.find? parsed.table).map (·.columns) =
      (database.catalog.find? parsed.table).map (·.columns))
    (options : QueryOptions) :
    SameEffect connection.handle later (statement.execute options later)
        (connection.submit (parsed.instantiate literals) options later) ∧
      ∀ sql sent, Connection.terminated sql = .ok sent →
        Statement.parse sql = .ok (parsed.instantiate literals) →
        SameEffect connection.handle later (statement.execute options later)
          (connection.query sql options later) := by
  obtain ⟨_, _, _, found, read, known, _, same, tracks⟩ := tracks_of_prepare inProcess
    (fun other there => Option.some.inj (opened.symm.trans there) ▸ matching) accepted
  cases opened.symm.trans found
  cases spelled.symm.trans read
  cases typed.symm.trans known
  have connected : statement.connection = connection := (connection_of_bindings bindings).trans same
  obtain ⟨recorded, ran, records⟩ := (tracks_of_bindings tracks bindings).execute present
  have alike := Database.execute_instantiate fun table there =>
    Statement.matches_of_records typed (Statement.inGrammar_of_parse spelled).1.inOrder complete
      records admitted written unchanged there
  have effect : SameEffect connection.handle later (statement.execute options later)
      (connection.submit (parsed.instantiate literals) options later) := by
    unfold execute
    rw [connected] at ran ⊢
    refine sameEffect_run present ran ?_ alike options
    simp only [Engine.onDatabase, present]
  refine ⟨effect, fun sql sent handed direct => ?_⟩
  rw [Connection.query_eq_submit inProcess handed direct]
  exact effect

end Substitution

/-- A table with a number and a moment. -/
def dated : List Engine.Request :=
  [.openDatabase ⟨true⟩ true none none, .sql "CREATE TABLE t (a BIGINT, b TIMESTAMP)",
    .sql "INSERT INTO t VALUES (7, NULL)"]

/-- A moment within a millisecond. -/
def moment : Timestamp :=
  ⟨⟨2024, 2, 29, by decide, by decide⟩,
    ⟨12, 34, 56, 789123456, by decide, by decide, by decide, by decide⟩⟩

/-- The table that was made. -/
def datedTable : Table :=
  ⟨"t", [⟨"a", .integer .int64⟩, ⟨"b", .timestamp⟩],
    [[.integer .int64 ⟨7, by decide, by decide⟩, .null]]⟩

/-- The moment of a number is to be set. -/
def datedParsed : Statement :=
  .update "t" [⟨"b", .placeholder 0⟩] (some ⟨"a", .placeholder 1⟩)

/-- The statement is prepared. -/
def datedPrepared : Except Error (PreparedStatement Engine) × Engine :=
  (Connection.toFirst ⟨true⟩).prepare "UPDATE t SET b = ? WHERE a = ?" (Engine.after dated)

/-- The values that are bound. -/
def datedValues : List Value :=
  [.timestamp moment, .integer .int32 ⟨7, by decide, by decide⟩]

/-- The same in a text. -/
def datedText : String :=
  "UPDATE t SET b = TIMESTAMP '2024-02-29 12:34:56.789' WHERE a = 7"

/-- A moment and a number are bound; in the text that has the same effect the moment is cut, and
the number is read as one of 64 bits. -/
theorem sameEffect_execute_dated : ∃ prepared start statement later,
    datedPrepared = (.ok prepared, start) ∧
    Bindings prepared start statement (datedValues.map some) later ∧
    SameEffect ⟨.engine, 0⟩ later (statement.execute ⟨false, 0⟩ later)
      ((Connection.toFirst ⟨true⟩).query datedText ⟨false, 0⟩ later) := by
  have held : ((Engine.after dated).database? (some ⟨.engine, 0⟩)).map
      (fun database => (database.layout, database.parameterTypes datedParsed,
        database.catalog.find? "t")) =
      some (⟨true⟩, .ok [.timestamp, .integer .int64], some datedTable) := by
    decide +kernel
  have shown : datedPrepared.1.toOption.map (fun prepared =>
      let first := prepared.bind 1 (.timestamp moment) datedPrepared.2
      let second := first.1.2.bind 2 (.integer .int32 ⟨7, by decide, by decide⟩) first.2
      (prepared.types, first.1.1, second.1.1,
        (second.2.database? (some ⟨.engine, 0⟩)).map (·.catalog.find? "t"))) =
      some ([.timestamp, .integer .int64], .ok (), .ok (), some (some datedTable)) := by
    decide +kernel
  have spelled : Statement.parse "UPDATE t SET b = ? WHERE a = ?" = .ok datedParsed := by
    decide +kernel
  have direct : Statement.parse datedText = .ok (datedParsed.instantiate
      [(Value.timestamp moment).cut, .integer .int64 ⟨7, by decide, by decide⟩]) := by
    decide +kernel
  obtain ⟨sent, handed⟩ : ∃ sent, NativeText.ofString? datedText = some sent :=
    Option.isSome_iff_exists.1 (by decide +kernel)
  have terminated : Connection.terminated datedText = .ok sent := by
    rw [Connection.terminated, handed]
  obtain ⟨database, opened, known⟩ := Option.map_eq_some_iff.1 held
  obtain ⟨matching, rest⟩ := Prod.mk.inj known
  obtain ⟨typed, before⟩ := Prod.mk.inj rest
  obtain ⟨prepared, answered, bound⟩ := Option.map_eq_some_iff.1 shown
  obtain ⟨types, rest⟩ := Prod.mk.inj bound
  obtain ⟨first, rest⟩ := Prod.mk.inj rest
  obtain ⟨second, rest⟩ := Prod.mk.inj rest
  obtain ⟨now, present, after⟩ := Option.map_eq_some_iff.1 rest
  have accepted := Call.eq_of_toOption answered
  have bindings := (Bindings.start.bind_of_ok (Prod.ext (Prod.ext first rfl) rfl)).bind_of_ok
    (Prod.ext (Prod.ext second rfl) rfl)
  rw [types] at bindings
  have kept : Parameter.toInteger? 0 (.integer .int32 ⟨7, by decide, by decide⟩) ≠
      some IntegerKind.int64.sentinel.val := by
    decide
  have admitted : List.Forall₂ DeclaredType.Admits [.timestamp, .integer .int64] datedValues :=
    .cons ⟨id, False.elim⟩ (.cons ⟨kept, False.elim⟩ .nil)
  have written : List.Forall₂ Value.IsWritten datedValues
      [(Value.timestamp moment).cut, .integer .int64 ⟨7, by decide, by decide⟩] :=
    .cons (.cut _) (.cons (.integer rfl) .nil)
  exact ⟨prepared, _, _, _, accepted, bindings,
    (sameEffect_execute (Connection.inProcess_toFirst _) opened matching accepted spelled typed rfl
      bindings admitted written present (congrArg _ (after.trans before.symm)) ⟨false, 0⟩).2
      datedText sent terminated direct⟩

end PreparedStatement

end ColumnStore
