import ColumnStore.Proofs.Client.Binding
import ColumnStore.Proofs.Engine.Parameters
import ColumnStore.Proofs.Engine.Reachable
import ColumnStore.Proofs.Sql.RoundTrip
import Mathlib.Data.List.ReduceOption
import Mathlib.Data.Set.List

/-!
# The parameters of a prepared statement

The parameters of a statement that was prepared are its placeholders, in the order in which they
are written in the text: each has the type of the column that the placeholder is inserted into,
assigned to or compared with, among the types of the statement as among what is told of it
(`PreparedStatement.parameters_of_prepare`).

There is one gap. An insertion with a row that is too long is prepared, although it can not be
executed (`Statement.Overfull.not_executed`), and a placeholder behind the last column is no
parameter (`PreparedStatement.exists_placeholder_lost`).
-/

set_option autoImplicit false

namespace ColumnStore

namespace PreparedStatement

/-- What is known of the parameters of a statement whose placeholders are for these columns. -/
structure HasParameters (statement : PreparedStatement Engine)
    (columns : List (Option ColumnDeclaration)) : Prop where
  types_eq : statement.types = columns.reduceOption.map (·.type.storage)
  told : statement.metadata.parameters =
    columns.reduceOption.map fun column => (ParameterInfo.ofType column.type).told

namespace HasParameters

variable {statement : PreparedStatement Engine} {columns : List (Option ColumnDeclaration)}

/-- If every placeholder is for a column, each is a parameter of its type. -/
theorem entry_eq (parameters : statement.HasParameters columns) (whole : none ∉ columns)
    {index : Nat} {column : ColumnDeclaration} (there : columns[index]? = some (some column)) :
    statement.types[index]? = some column.type.storage ∧
      statement.metadata.parameters[index]? = some (ParameterInfo.ofType column.type).told := by
  obtain ⟨declared, rfl⟩ : columns ∈ Set.range (List.map some) := by
    rw [Set.range_list_map]
    exact fun use member => Option.ne_none_iff_exists.1 fun absent => whole (absent ▸ member)
  have same : (declared.map some).reduceOption = declared := by
    simp [List.reduceOption, List.filterMap_map]
  have known : declared[index]? = some column := by
    simpa [List.getElem?_map] using there
  rw [parameters.types_eq, parameters.told, same, List.getElem?_map, List.getElem?_map, known]
  exact ⟨rfl, rfl⟩

/-- There are as many parameters as placeholders just if every placeholder is for a column. -/
theorem length_eq_iff (parameters : statement.HasParameters columns) :
    statement.types.length = columns.length ↔ none ∉ columns := by
  rw [parameters.types_eq, List.length_map, List.reduceOption_length_eq_iff]
  constructor
  · intro each unused
    exact absurd (each none unused) (by decide)
  · intro whole use member
    cases use with
    | none => exact absurd member whole
    | some column => rfl

end HasParameters

section Prepared

variable {connection : Connection Engine} {text : String} {engine final : Engine}
  {statement : PreparedStatement Engine}

/-- **The parameters are the placeholders of the text, in its order**, each of the type of the
column it is for. They are as many, unless a row of an insertion is too long. -/
theorem parameters_of_prepare (inProcess : connection.InProcess)
    (matching : ∀ database, engine.database? (some connection.handle) = some database →
      database.layout = connection.api.layout)
    (prepared : connection.prepare text engine = (.ok statement, final)) :
    ∃ database tokens parsed, engine.database? (some connection.handle) = some database ∧
      Token.ofText text = .ok tokens ∧ Statement.parse text = .ok parsed ∧
      parsed.placeholders = List.range (tokens.count .placeholder) ∧
      (database.placeholderColumns parsed).length = tokens.count .placeholder ∧
      statement.HasParameters (database.placeholderColumns parsed) ∧
      (statement.types.length = tokens.count .placeholder ↔
        none ∉ database.placeholderColumns parsed) ∧
      (none ∉ database.placeholderColumns parsed → ∀ (index : Nat) (column : ColumnDeclaration),
        (database.placeholderColumns parsed)[index]? = some (some column) →
          statement.types[index]? = some column.type.storage ∧
          statement.metadata.parameters[index]? =
            some (ParameterInfo.ofType column.type).told) ∧
      (none ∈ database.placeholderColumns parsed → parsed.Overfull database) := by
  obtain ⟨database, parsed, parameters, found, read, typed, _, _, tracks, _, outputs, told⟩ :=
    described_of_prepare inProcess matching prepared
  obtain ⟨grammar, tokens, scanned, counted⟩ := Statement.inGrammar_of_parse read
  have numbered : parsed.placeholders = List.range (tokens.count .placeholder) :=
    counted ▸ grammar.inOrder
  obtain ⟨rfl, length, overfull⟩ := Database.parameterTypes_eq_ok typed
    (numbered ▸ List.pairwise_lt_range)
  have known : statement.HasParameters (database.placeholderColumns parsed) :=
    ⟨by rw [tracks.types_eq, List.map_map]; rfl,
      by simp only [told, Metadata.told, Metadata.declared, List.map_map]; rfl⟩
  have count := length.trans counted
  exact ⟨database, tokens, parsed, found, scanned, read, numbered, count, known,
    count ▸ known.length_eq_iff, fun whole _ _ there => known.entry_eq whole there, overfull⟩

end Prepared

/-! ## A placeholder that is lost -/

/-- A table with one column, and one with two. -/
def narrowAndWide : List Engine.Request :=
  [.openDatabase ⟨true⟩ true none none, .sql "CREATE TABLE t (a INT)",
    .sql "CREATE TABLE u (a INT, b VARCHAR(5))"]

/-- A connection to this database. -/
def toNarrow : Connection Engine :=
  Connection.toFirst ⟨true⟩

/-- In two rows the columns are named in another order. -/
def swappedText : String :=
  "INSERT INTO u (b, a) VALUES (?, 1), ('?', ?)"

/-- The placeholders are for the second column and then for the first. -/
theorem parameters_of_prepare_swapped : ∃ statement final,
    toNarrow.prepare swappedText (Engine.after narrowAndWide) = (.ok statement, final) ∧
    statement.types = [.str, .integer .int32] ∧
    ∃ database tokens parsed,
      (Engine.after narrowAndWide).database? (some toNarrow.handle) = some database ∧
      Token.ofText swappedText = .ok tokens ∧ Statement.parse swappedText = .ok parsed ∧
      (database.placeholderColumns parsed).length = tokens.count .placeholder ∧
      statement.HasParameters (database.placeholderColumns parsed) ∧
      (statement.types.length = tokens.count .placeholder ↔
        none ∉ database.placeholderColumns parsed) := by
  have shown : (toNarrow.prepare swappedText (Engine.after narrowAndWide)).1.toOption.map
      (·.types) = some [.str, .integer .int32] := by
    decide +kernel
  obtain ⟨statement, answered, types⟩ := Option.map_eq_some_iff.1 shown
  have prepared := Call.eq_of_toOption answered
  obtain ⟨database, tokens, parsed, found, scanned, read, _, count, known, complete, _⟩ :=
    parameters_of_prepare (Connection.inProcess_toFirst _)
      (fun _ => (Engine.openedWith_after _ _ _ _).layout_of_database?) prepared
  exact ⟨statement, _, prepared, types, database, tokens, parsed, found, scanned, read, count,
    known, complete⟩

/-- Two values for the one column of a table. -/
def overfullText : String :=
  "INSERT INTO t VALUES (?, ?)"

/-- A statement can be prepared that has fewer parameters than placeholders. -/
theorem exists_placeholder_lost : ¬ ∀ (connection : Connection Engine) (text : String)
    (engine final : Engine) (statement : PreparedStatement Engine) (tokens : List Token),
    engine.Reachable → connection.InProcess →
    (∀ database, engine.database? (some connection.handle) = some database →
      database.layout = connection.api.layout) →
    connection.prepare text engine = (.ok statement, final) → Token.ofText text = .ok tokens →
    statement.types.length = tokens.count .placeholder := by
  have shown : (toNarrow.prepare overfullText (Engine.after narrowAndWide)).1.toOption.map
      (·.types.length) = some 1 := by
    decide +kernel
  have scanned : (Token.ofText overfullText).toOption.map (·.count .placeholder) = some 2 := by
    decide +kernel
  obtain ⟨statement, answered, length⟩ := Option.map_eq_some_iff.1 shown
  obtain ⟨tokens, read, count⟩ := Option.map_eq_some_iff.1 scanned
  have spelled : Token.ofText overfullText = .ok tokens := by
    cases attempt : Token.ofText overfullText with
    | error failure =>
        rw [attempt] at read
        cases read
    | ok other =>
        rw [attempt] at read
        exact congrArg Except.ok (Option.some.inj read)
  intro claimed
  have same := claimed toNarrow overfullText _ _ statement tokens ⟨narrowAndWide, rfl⟩ rfl
    (fun _ => (Engine.openedWith_after _ _ _ _).layout_of_database?)
    (Call.eq_of_toOption answered) spelled
  omega

end PreparedStatement

end ColumnStore
