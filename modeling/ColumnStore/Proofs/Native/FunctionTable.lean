import ColumnStore.Native.FunctionTable
import ColumnStore.Proofs.Agreement
import ColumnStore.Proofs.Engine.Portable
import ColumnStore.Sql.Parser

/-!
# Function tables that agree

Two function tables for two layouts agree if each of their entries does. Whatever they hand
out with type tags in it agrees up to the numbering of the tags; everything else they answer
is equal. A text is only asked of them if the statement it spells is portable.
-/

set_option autoImplicit false

namespace ColumnStore

/-- The statement that the text spells, if it spells one, makes no column that is not portable. -/
def PortableText (text : String) : Prop :=
  ∀ statement, Statement.parse text = .ok statement → statement.Portable

instance (text : String) : Decidable (PortableText text) :=
  match parsed : Statement.parse text with
  | .ok statement =>
      decidable_of_iff statement.Portable
        ⟨fun portable other same => by
          rw [parsed] at same
          cases same
          exact portable, fun portable => portable statement parsed⟩
  | .error _ => isTrue fun other same => by
      rw [parsed] at same
      cases same

namespace FunctionTable

variable {σ : Type}

/-- Fetch a column and write other cells in the place of its own. -/
def rewrite (table : FunctionTable σ) (change : LiveColumn → ColumnCells)
    (result : Option (Handle .result)) (index : Nat) : StateM σ (Reply (Option LiveColumn)) :=
  fun state =>
    match table.resultFetch result index state with
    | (.ok (some column), next) =>
        (.ok (some column), (table.writeCells column (change column) next).2)
    | (reply, next) => (reply, next)

variable {table : FunctionTable σ} {change : LiveColumn → ColumnCells}
  {result : Option (Handle .result)} {index : Nat} {state next : σ}

theorem rewrite_of_column {column : LiveColumn}
    (fetched : table.resultFetch result index state = (.ok (some column), next)) :
    table.rewrite change result index state =
      (.ok (some column), (table.writeCells column (change column) next).2) := by
  rw [rewrite, fetched]

theorem rewrite_of_none
    (fetched : table.resultFetch result index state = (.ok none, next)) :
    table.rewrite change result index state = (.ok none, next) := by
  rw [rewrite, fetched]

theorem rewrite_of_error {text : NativeText}
    (fetched : table.resultFetch result index state = (.error text, next)) :
    table.rewrite change result index state = (.error text, next) := by
  rw [rewrite, fetched]

end FunctionTable

section Layouts

variable {left right : TagLayout}

/-- The same column of a result, handed out for two layouts. -/
structure LiveColumn.Agrees (left right : TagLayout) (column other : LiveColumn) : Prop where
  result : column.result = other.result
  index : column.index = other.index
  descriptor : column.descriptor.Agrees left right other.descriptor

/-- The same statement, handed out for two layouts. -/
structure LiveStatement.Agrees (left right : TagLayout) (statement other : LiveStatement) :
    Prop where
  handle : statement.handle = other.handle
  parameterCount : statement.parameterCount = other.parameterCount
  tags : Option.Rel (List.Forall₂ (SameTag left right)) statement.tags other.tags

/-- What preparing a statement stores for two layouts. -/
structure Prepared.Agrees (left right : TagLayout) (prepared other : Prepared) : Prop where
  statement : Option.Rel (LiveStatement.Agrees left right) prepared.statement other.statement
  description : prepared.description = other.description

namespace FunctionTable

variable {σ τ α : Type}

/-- Tables whose entries agree from related states on. -/
structure Agrees (related : σ → σ → Prop) (left right : TagLayout) (table other : FunctionTable σ) :
    Prop where
  openDatabase : ∀ url options,
    Agree related Eq (table.openDatabase url options) (other.openDatabase url options)
  closeDatabase : ∀ database,
    Agree related Eq (table.closeDatabase database) (other.closeDatabase database)
  lastError : ∀ database, Agree related Eq (table.lastError database) (other.lastError database)
  getAutocommit : ∀ database,
    Agree related (Except.Agree Eq) (table.getAutocommit database) (other.getAutocommit database)
  setAutocommit : ∀ database value, Agree related (Except.Agree Eq)
    (table.setAutocommit database value) (other.setAutocommit database value)
  query : ∀ database (text : NativeText), PortableText text.toString →
    Agree related (Except.Agree Eq) (table.query database (some text))
      (other.query database (some text))
  /-- Cells are only written right after their column was fetched, and keep its type. -/
  rewrite : ∀ result index (change second : LiveColumn → ColumnCells),
    (∀ column another, LiveColumn.Agrees left right column another →
      change column = second another ∧ (change column).type = column.descriptor.cells.type) →
    Agree related (Except.Agree (Option.Rel (LiveColumn.Agrees left right)))
      (table.rewrite change result index) (other.rewrite second result index)
  cleanupResult : ∀ database result, Agree related (Except.Agree Eq)
    (table.cleanupResult database result) (other.cleanupResult database result)
  prepare : ∀ database (text : NativeText), PortableText text.toString →
    Agree related (Except.Agree (Prepared.Agrees left right)) (table.prepare database (some text))
      (other.prepare database (some text))
  bind : ∀ statement datum index, Agree related (Except.Agree Eq)
    (table.bind statement datum index) (other.bind statement datum index)
  execute : ∀ statement,
    Agree related (Except.Agree Eq) (table.execute statement) (other.execute statement)
  cleanupStatement : ∀ database statement, Agree related (Except.Agree Eq)
    (table.cleanupStatement database statement) (other.cleanupStatement database statement)
  nullValue : ∀ database tag second, SameTag left right tag second →
    Agree related (Except.Agree Eq) (table.nullValue database tag)
      (other.nullValue database second)

/-- Actions on parts of larger states agree if the actions do and the rest is kept. -/
theorem agree_within {related : σ → σ → Prop} {larger : τ → τ → Prop} {part : τ → σ}
    {replace : σ → τ → τ} {same : α → α → Prop} {action other : StateM σ α}
    (parts : ∀ state second, larger state second → related (part state) (part second))
    (kept : ∀ state second, larger state second → ∀ changed next, related changed next →
      larger (replace changed state) (replace next second))
    (agree : Agree related same action other) :
    Agree larger same (within part replace action) (within part replace other) := by
  intro state second start
  obtain ⟨answers, final⟩ := agree _ _ (parts state second start)
  exact ⟨answers, kept state second start _ _ final⟩

end FunctionTable

end Layouts

end ColumnStore
