import ColumnStore.Proofs.Client.Parameter
import ColumnStore.Proofs.Engine.Filtering
import ColumnStore.Proofs.Number.Rational

/-!
# Filters on decimal columns

The value of a filter on a decimal column is cut to the places of the column, as if it were to be
stored there, and then compared with what is stored. A filter therefore selects the rows that hold
its number cut to these places, whether the number is written in the statement or bound to a
parameter, and queries, deletions and updates act on the same rows (`Database.ActsAt`).

A number without digits behind the places of the column is cut without loss, and the rows that are
selected are those that hold the number. No row holds any other number, and yet rows are selected
for it, if there are rows that hold the number cut to the places (`Engine.exists_unequal_deleted`).

Main result: `Engine.decimal_filter_selects`.
-/

set_option autoImplicit false

namespace ColumnStore

/-! ## Numbers of values -/

/-- The exact number of an integer or a decimal. -/
def Value.exactNumber? : Value → Option Decimal
  | .integer _ number => some (.ofInt number.val)
  | .decimal number => some number
  | _ => none

/-- A value is the same as a decimal if it is a decimal that stands for the same number. -/
theorem Value.same_decimal_iff {value : Value} {wanted : Decimal} :
    value.same (.decimal wanted) ↔ ∃ held, value = .decimal held ∧ held.toRat = wanted.toRat := by
  cases value with
  | decimal held => simp [same, Decimal.sameNumber_iff]
  | _ => simp [same]

theorem Value.of_exactNumber? {value : Value} {number : Decimal}
    (exact : value.exactNumber? = some number) :
    Coercion.toDecimal value = .ok number ∧ value.isNull = false ∧ value.cut = value ∧
      ¬ value.IsBinary := by
  cases value <;> cases exact <;> exact ⟨rfl, rfl, rfl, id⟩

namespace DeclaredType

variable {digits scale : Nat} {valid : 0 < digits ∧ scale ≤ digits ∧ digits ≤ 38}
  {value stored recorded : Value} {number : Decimal}

/-- How a number that a decimal column takes is stored. -/
theorem unscaled_of_coerce_decimal (exact : value.exactNumber? = some number)
    (accepted : (decimal digits scale valid).coerce value = .ok stored) :
    ∃ unscaled, number.toUnscaled? scale = some unscaled ∧ unscaled.val.natAbs < 10 ^ digits ∧
      stored = .decimal (Decimal.fromUnscaled unscaled.val scale) := by
  obtain ⟨exactly, present, -, -⟩ := Value.of_exactNumber? exact
  rw [coerce, present] at accepted
  obtain ⟨other, unscaled, read, cut, bounded, whole⟩ := Coercion.coerceDecimal_eq_ok.1 accepted
  cases exactly.symm.trans read
  exact ⟨unscaled, cut, bounded, whole⟩

/-- It is stored as the number cut to the places of the column. -/
theorem stored_of_coerce_decimal (exact : value.exactNumber? = some number)
    (accepted : (decimal digits scale valid).coerce value = .ok stored) :
    ∃ wanted, stored = .decimal wanted ∧ wanted.toRat = cutTo scale number.toRat := by
  obtain ⟨unscaled, cut, -, rfl⟩ := unscaled_of_coerce_decimal exact accepted
  have same := IntegerKind.ofInt?_eq_some.1 cut
  exact ⟨_, rfl, by rw [same, Decimal.toRat_unscaledAt]⟩

/-- A number that the column takes is not the one that is reserved for NULL: this one has more
digits than the column. -/
theorem not_reserves_of_coerce_decimal (exact : value.exactNumber? = some number)
    (accepted : (decimal digits scale valid).coerce value = .ok stored) :
    ¬ (decimal digits scale valid).Reserves value := by
  intro reserved
  obtain ⟨exactly, -, uncut, plain⟩ := Value.of_exactNumber? exact
  obtain ⟨unscaled, cut, bounded, -⟩ := unscaled_of_coerce_decimal exact accepted
  have bound : Parameter.toInteger? scale value =
      some (IntegerKind.widest (decimalStorage digits).sentinel).val := reserved
  obtain ⟨other, read, again⟩ := exists_toDecimal (fun binary => absurd binary plain) bound
  rw [uncut] at read
  cases exactly.symm.trans read
  cases cut.symm.trans again
  have fits : (decimalStorage digits).minimum < (decimalStorage digits).sentinel.val :=
    (decimal_fits valid.2.2 bounded).1
  have least := IntegerKind.sentinel_of_ne_size (decimalStorage_ne_size digits)
  omega

/-- What is recorded for a number that the column takes is stored as the number itself would be. -/
theorem Records.coerce_decimal_eq (records : (decimal digits scale valid).Records value recorded)
    (exact : value.exactNumber? = some number)
    (accepted : (decimal digits scale valid).coerce value = .ok stored) :
    (decimal digits scale valid).coerce recorded = .ok stored := by
  obtain ⟨-, -, uncut, plain⟩ := Value.of_exactNumber? exact
  have alike := records.coerce_alike
    ⟨not_reserves_of_coerce_decimal exact accepted, fun binary => absurd binary plain⟩
  rw [uncut, accepted] at alike
  generalize (decimal digits scale valid).coerce recorded = outcome at alike
  cases alike with
  | ok => rfl

end DeclaredType

/-- The expression stands for the value, or is a placeholder for which the value was bound to a
parameter of the type. -/
def Expression.Gives (type : DeclaredType) (parameters : List Value) (value : Value)
    (expression : Expression) : Prop :=
  ∃ given, expression.resolve parameters = .ok given ∧ (given = value ∨ type.Records value given)

/-! ## The rows a filter acts on -/

namespace Table

variable {table : Table} {parameters : List Value} {condition : Filter}

/-- A filter on a decimal column compares numbers. -/
theorem test_decimal {target : Target} {wanted : Decimal}
    (aimed : table.target condition.column = .ok target)
    (coerced : target.coerce parameters condition.value = .ok (.decimal wanted)) :
    table.test (some condition) parameters =
      .ok fun row => (cell row target.position).same (.decimal wanted) :=
  Except.bind_eq_ok.2 ⟨_, aimed, Except.bind_eq_ok.2 ⟨_, coerced, rfl⟩⟩

end Table

namespace Database

variable {database : Database} {name : String} {table : Table} {parameters : List Value}
  {condition : Filter}

/-- Queries, deletions and updates with the filter act on the rows at some positions: queries
return them, deletions take them out, and updates change them alone. -/
structure ActsAt (database : Database) (name : String) (table : Table) (condition : Filter)
    (parameters : List Value) (positions : List Nat) : Prop where
  selects : ∀ projection targets, table.targets projection = .ok targets →
    ∃ native, NativeResult.ofRows database.layout name
        (targets.map fun target => target.column.output)
        ((table.rowsAt positions).map fun row =>
          targets.map fun target => Table.cell row target.position) = .ok native ∧
      database.execute (.select name projection (some condition)) parameters =
        .ok (database, .rows native)
  deletes : ∃ changed, database.execute (.delete name (some condition)) parameters =
      .ok (changed, .affected positions.length) ∧
    database.Replaced changed name { table with rows := table.rowsBesides positions }
  updates : ∀ assignments, (∀ assignment ∈ assignments, ∃ target value,
      table.Accepts parameters assignment.column assignment.value target value) →
    ∃ changed rows, database.execute (.update name assignments (some condition)) parameters =
        .ok (changed, .affected positions.length) ∧
      database.Replaced changed name { table with rows } ∧
      table.Assigned parameters assignments positions rows

/-- They act on the rows that pass the test of the filter. -/
theorem WellFormed.actsAt (formed : database.WellFormed)
    (found : database.catalog.find? name = some table) {test : Row → Bool}
    (tested : table.test (some condition) parameters = .ok test) :
    database.ActsAt name table condition parameters (table.positions test) where
  selects projection targets aimed := by
    rw [Table.rowsAt_positions]
    exact exists_rows_of_selects formed ⟨Catalog.table_eq_ok.2 found, aimed, tested⟩
  deletes := ⟨_, execute_eq_ok.2 (.delete found (Table.delete_positions tested)),
    replaced_put found _⟩
  updates assignments valid := by
    have own := formed.find (Catalog.table_eq_ok.2 found)
    obtain ⟨rows, updated, assigned⟩ := Table.exists_update own tested valid
    exact ⟨_, rows, execute_eq_ok.2 (.update found updated), replaced_put found rows, assigned⟩

end Database

/-- The rows at the positions, in increasing order, are those with a decimal in the column that
stands for the number. -/
structure Table.Holding (table : Table) (index : Nat) (number : ℚ) (positions : List Nat) : Prop
    where
  increasing : positions.Pairwise (· < ·)
  mem_iff : ∀ position, position ∈ positions ↔ ∃ row held, table.rows[position]? = some row ∧
    Table.cell row index = .decimal held ∧ held.toRat = number

/-- No decimal of a scale stands for a number with digits behind its places. -/
theorem Table.WellFormed.toRat_mul {layout : TagLayout} {table : Table}
    (formed : table.WellFormed layout) {index : Nat} {column : ColumnDeclaration}
    (listed : table.columns[index]? = some column) {digits scale : Nat}
    {valid : 0 < digits ∧ scale ≤ digits ∧ digits ≤ 38}
    (declared : column.type = .decimal digits scale valid) {row : Row} (member : row ∈ table.rows)
    {held : Decimal} (there : Table.cell row index = .decimal held) :
    held.toRat * 10 ^ scale = held.unscaled := by
  have stores := (formed.rows_fit row member).cell listed
  rw [declared, there] at stores
  have same : held.scale = scale := stores.1
  rw [held.unscaled_eq, same, zpow_natCast]

/-- **A filter on a decimal column selects the rows that hold its number cut to the places of the
column**, in queries, deletions and updates, as a literal or as a parameter. These are the rows
that hold the number if it has no digits behind the places; otherwise no row holds it. -/
theorem Engine.decimal_filter_selects {engine : Engine} (reachable : engine.Reachable)
    {number : Nat} {database : Database} (kept : engine.databases.find? number = some database)
    {name : String} {table : Table} (found : database.catalog.find? name = some table)
    {index : Nat} {column : ColumnDeclaration} (listed : table.columns[index]? = some column)
    {digits scale : Nat} {valid : 0 < digits ∧ scale ≤ digits ∧ digits ≤ 38}
    (declared : column.type = .decimal digits scale valid) {value stored : Value}
    {exact : Decimal} (whole : value.exactNumber? = some exact)
    (accepted : column.type.coerce value = .ok stored) :
    ∃ positions, table.Holding index (cutTo scale exact.toRat) positions ∧
      ((∃ n : ℤ, exact.toRat * 10 ^ scale = n) → table.Holding index exact.toRat positions) ∧
      ((¬ ∃ n : ℤ, exact.toRat * 10 ^ scale = n) → table.Holding index exact.toRat []) ∧
      ∀ condition parameters, condition.column = column.name →
        condition.value.Gives column.type parameters value →
        database.ActsAt name table condition parameters positions := by
  have formed := (wellFormed_of_reachable reachable).databases number database kept
  have own := formed.find (Catalog.table_eq_ok.2 found)
  rw [declared] at accepted
  obtain ⟨wanted, rfl, cut⟩ := DeclaredType.stored_of_coerce_decimal whole accepted
  have holding : table.Holding index (cutTo scale exact.toRat)
      (table.positions fun row => (Table.cell row index).same (.decimal wanted)) := by
    refine ⟨table.increasing_positions _, fun position => ?_⟩
    rw [Table.mem_positions]
    refine exists_congr fun row => ?_
    rw [Value.same_decimal_iff, cut, exists_and_left]
  refine ⟨_, holding, fun fits => ?_, fun behind => ⟨.nil, fun position => ?_⟩,
    fun condition parameters named gives => ?_⟩
  · rwa [cutTo_eq_self_iff.2 fits] at holding
  · refine iff_of_false List.not_mem_nil ?_
    rintro ⟨row, held, there, cell, same⟩
    exact behind ⟨held.unscaled, same ▸ own.toRat_mul listed declared
      (List.mem_of_getElem? there) cell⟩
  · have aimed : table.target condition.column = .ok ⟨index, column⟩ :=
      named ▸ Table.target_eq_ok own.distinct (show Table.Target.Of _ ⟨index, column⟩ from listed)
    obtain ⟨given, resolved, same⟩ := gives
    have coerced : Table.Target.coerce ⟨index, column⟩ parameters condition.value =
        .ok (.decimal wanted) := by
      refine Except.bind_eq_ok.2 ⟨given, resolved, ?_⟩
      show column.type.coerce given = _
      rw [declared] at same ⊢
      rcases same with rfl | records
      · exact accepted
      · exact records.coerce_decimal_eq whole accepted
    exact formed.actsAt found (Table.test_decimal aimed coerced)

namespace Engine

/-- A table is made, and two prices and a NULL are put into it. -/
def Request.pricing : List Request :=
  [.openDatabase ⟨true⟩ true none none, .sql "CREATE TABLE t (a DECIMAL(5, 2))",
    .sql "INSERT INTO t VALUES (1.00), (2.50), (NULL)"]

/-- The number 2.5 has other places than the column, and selects the row that holds it. -/
theorem decimal_filter_selects_priced : ∃ database table,
    (after Request.pricing).databases.find? 0 = some database ∧
    database.catalog.find? "t" = some table ∧
    table.rows = [[.decimal ⟨100, 2⟩], [.decimal ⟨250, 2⟩], [.null]] ∧
    ∃ positions, table.Holding 0 (5 / 2) positions ∧
      database.ActsAt "t" table ⟨"a", .literal (.decimal ⟨25, 1⟩)⟩ [] positions := by
  have listed : ((after Request.pricing).databases.find? 0).bind (·.catalog.find? "t") =
      some ⟨"t", [⟨"a", .decimal 5 2 (by decide)⟩],
        [[.decimal ⟨100, 2⟩], [.decimal ⟨250, 2⟩], [.null]]⟩ := by
    decide +kernel
  obtain ⟨database, kept, found⟩ := Option.bind_eq_some_iff.1 listed
  have priced : [(⟨"a", .decimal 5 2 (by decide)⟩ : ColumnDeclaration)][0]? =
      some ⟨"a", .decimal 5 2 (by decide)⟩ := rfl
  have whole : (Value.decimal ⟨25, 1⟩).exactNumber? = some ⟨25, 1⟩ := rfl
  have accepted : (DeclaredType.decimal 5 2 (by decide)).coerce (.decimal ⟨25, 1⟩) =
      .ok (.decimal ⟨250, 2⟩) := by decide
  obtain ⟨positions, -, holding, -, acts⟩ := decimal_filter_selects ⟨Request.pricing, rfl⟩ kept
    found priced rfl whole accepted
  have number : (⟨25, 1⟩ : Decimal).toRat = 5 / 2 := by norm_num [Decimal.toRat]
  refine ⟨database, _, kept, found, rfl, positions, number ▸ holding ⟨250, ?_⟩,
    acts _ [] rfl ⟨_, rfl, .inl rfl⟩⟩
  rw [number]
  norm_num

/-- A deletion takes out a row although no row holds the number of its filter. -/
theorem exists_unequal_deleted : ∃ database table changed,
    (after Request.pricing).databases.find? 0 = some database ∧
    database.catalog.find? "t" = some table ∧
    (∀ row ∈ table.rows, ∀ held, Table.cell row 0 = .decimal held →
      held.toRat ≠ (⟨1005, 3⟩ : Decimal).toRat) ∧
    database.execute (.delete "t" (some ⟨"a", .literal (.decimal ⟨1005, 3⟩)⟩)) [] =
      .ok (changed, .affected 1) := by
  have deleted : ((after Request.pricing).databases.find? 0).bind (fun database =>
      (database.catalog.find? "t").bind fun table =>
        match database.execute (.delete "t" (some ⟨"a", .literal (.decimal ⟨1005, 3⟩)⟩)) [] with
        | .ok (_, .affected count) => some (table.rows, count)
        | _ => none) =
      some ([[.decimal ⟨100, 2⟩], [.decimal ⟨250, 2⟩], [.null]], 1) := by
    decide +kernel
  obtain ⟨database, kept, deleted⟩ := Option.bind_eq_some_iff.1 deleted
  obtain ⟨table, found, deleted⟩ := Option.bind_eq_some_iff.1 deleted
  split at deleted
  · next changed count executed =>
      obtain ⟨rows, rfl⟩ := Prod.ext_iff.1 (Option.some.inj deleted)
      refine ⟨database, table, changed, kept, found, fun row member held there => ?_, executed⟩
      dsimp only at rows
      rw [rows] at member
      simp only [List.mem_cons, List.not_mem_nil, or_false] at member
      rcases member with rfl | rfl | rfl
      · cases there
        norm_num [Decimal.toRat]
      · cases there
        norm_num [Decimal.toRat]
      · cases there
  · cases deleted

end Engine

end ColumnStore
