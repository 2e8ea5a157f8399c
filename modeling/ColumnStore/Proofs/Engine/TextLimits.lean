import ColumnStore.Proofs.Engine.Provenance

/-!
# Limits of text columns

A text that is written into a column with a limit is measured, and a statement that would write
a longer one is refused. A value of another kind is stored as its text, and that text is not
measured: a number of five digits fits into a column of three characters. So a stored text keeps
to the limit of its column, unless it is the text of a value of another kind that some earlier
statement wrote there.

Main result: `Engine.texts_limited`.
-/

set_option autoImplicit false

namespace ColumnStore

namespace DeclaredType

variable {limit : Nat} {text : String}

/-- A text that is too long is refused by a column with a limit. -/
theorem coerce_varchar_error (limited : 0 < limit) (long : limit < text.length) :
    (varchar limit).coerce (.str text) = .error (.textTooLong limit) := by
  simp [coerce, Value.isNull, Coercion.coerceText, limited, long]

/-- What is stored in a text column is a measured text, or the text of a value of another kind. -/
theorem coerce_varchar_cases {value : Value} (limited : 0 < limit)
    (coerced : (varchar limit).coerce value = .ok (.str text)) :
    text.length ≤ limit ∨ (∀ other, value ≠ .str other) ∧ value ≠ .null ∧ text = value.text := by
  cases value with
  | null => cases coerced
  | str content =>
      left
      by_cases long : limit < content.length
      · rw [coerce_varchar_error limited long] at coerced
        cases coerced
      · have kept : (varchar limit).coerce (.str content) = .ok (.str content) := by
          simp [coerce, Value.isNull, Coercion.coerceText, long]
        cases kept.symm.trans coerced
        exact Nat.le_of_not_lt long
  | _ =>
      cases coerced
      exact .inr ⟨by simp, by simp, rfl⟩

end DeclaredType

namespace Engine

/-- **A text that is written into a column with a limit keeps to it**, or the statement is
refused; the texts of other values are stored whatever their length. -/
theorem texts_limited (requests : List Request) {number : Nat} {database : Database}
    (kept : (after requests).databases.find? number = some database) :
    (∀ table ∈ database.catalog.tables, ∀ row ∈ table.rows,
      ∀ (position : Nat) (column : String) (limit : Nat) (text : String),
        table.columns[position]? = some ⟨column, .varchar limit⟩ → 0 < limit →
        Table.cell row position = .str text →
        text.length ≤ limit ∨ ∃ value, (∀ other, value ≠ .str other) ∧ value ≠ .null ∧
          text = value.text ∧ Wrote requests number table.name ⟨column, .varchar limit⟩ value) ∧
      ∀ statement parameters column limit text,
        database.Writes parameters statement ⟨column, .varchar limit⟩ (.str text) →
        0 < limit → limit < text.length →
        ∃ failure, database.execute statement parameters = .error failure := by
  constructor
  · intro table member row listed position column limit text aimed limited stored
    have origin := eachCell_after requests kept table member row listed position _ aimed
    rw [stored] at origin
    rcases origin with absent | ⟨value, wrote, coerced⟩
    · cases absent
    · refine (DeclaredType.coerce_varchar_cases limited coerced).imp_right ?_
      rintro ⟨other, present, shown⟩
      exact ⟨value, other, present, shown, wrote⟩
  · intro statement parameters column limit text writes limited long
    cases executed : database.execute statement parameters with
    | error failure => exact ⟨failure, rfl⟩
    | ok answer =>
        obtain ⟨stored, coerced⟩ := (Database.execute_eq_ok.1 executed).coerced writes
        rw [DeclaredType.coerce_varchar_error limited long] at coerced
        cases coerced

/-- A number of five digits is put into a column of three characters. -/
def Request.overfilling : List Request :=
  [.openDatabase ⟨true⟩ true none none, .sql "CREATE TABLE t (a VARCHAR(3))",
    .sql "INSERT INTO t VALUES (12345)"]

theorem tables_of_overfilling :
    ((after Request.overfilling).databases.find? 0).map (·.catalog.tables) =
      some [⟨"t", [⟨"a", .varchar 3⟩], [[.str "12345"]]⟩] := by
  decide +kernel

/-- The text of the number can be traced back to a value of another kind. -/
theorem texts_limited_overfilling : ∃ database,
    (after Request.overfilling).databases.find? 0 = some database ∧
    ∃ table ∈ database.catalog.tables, ∃ row ∈ table.rows,
      table.columns[0]? = some ⟨"a", .varchar 3⟩ ∧ Table.cell row 0 = .str "12345" ∧
      ∃ value, (∀ other, value ≠ .str other) ∧ "12345" = value.text ∧
        Wrote Request.overfilling 0 table.name ⟨"a", .varchar 3⟩ value := by
  obtain ⟨database, kept, tables⟩ := Option.map_eq_some_iff.1 tables_of_overfilling
  have member : (⟨"t", [⟨"a", .varchar 3⟩], [[.str "12345"]]⟩ : Table) ∈
      database.catalog.tables := by
    rw [tables]
    exact List.mem_cons_self
  refine ⟨database, kept, _, member, _, List.mem_cons_self, rfl, rfl, ?_⟩
  have limited := (texts_limited Request.overfilling kept).1 _ member _ List.mem_cons_self 0 "a" 3
    "12345" rfl (by decide) rfl
  obtain short | ⟨value, other, _, shown, wrote⟩ := limited
  · exact absurd short (by decide)
  · exact ⟨value, other, shown, wrote⟩

/-- A column holds a text that is longer than its limit. -/
theorem exists_text_beyond_limit : ∃ database,
    (after Request.overfilling).databases.find? 0 = some database ∧
    ∃ table ∈ database.catalog.tables, ∃ row ∈ table.rows,
      ∃ (position : Nat) (column : String) (limit : Nat) (text : String),
        table.columns[position]? = some ⟨column, .varchar limit⟩ ∧ 0 < limit ∧
        Table.cell row position = .str text ∧ limit < text.length := by
  obtain ⟨database, kept, tables⟩ := Option.map_eq_some_iff.1 tables_of_overfilling
  refine ⟨database, kept, ⟨"t", [⟨"a", .varchar 3⟩], [[.str "12345"]]⟩, ?_, _,
    List.mem_cons_self, 0, "a", 3, "12345", rfl, by decide, rfl, by decide⟩
  rw [tables]
  exact List.mem_cons_self

end Engine

end ColumnStore
