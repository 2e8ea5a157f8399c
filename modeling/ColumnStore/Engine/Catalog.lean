import ColumnStore.Engine.Table

/-!
# The tables of a database

A catalog holds tables by name. What a catalog holds is seen through `find?`; the lemmas
here say what each operation does to it.
-/

set_option autoImplicit false

namespace ColumnStore

/-- Tables, each under its own name. -/
structure Catalog where
  tables : List Table
  deriving DecidableEq, Repr

namespace Catalog

/-- No tables. -/
def empty : Catalog :=
  ⟨[]⟩

/-- The table with a name. -/
def find? (catalog : Catalog) (name : String) : Option Table :=
  catalog.tables.find? (·.name = name)

/-- The table a statement is about. -/
def table (catalog : Catalog) (name : String) : Except Failure Table :=
  match catalog.find? name with
  | some table => .ok table
  | none => .error (.unknownTable name)

/-- Take out the table with a name. -/
def remove (catalog : Catalog) (name : String) : Catalog :=
  ⟨catalog.tables.filter (·.name ≠ name)⟩

/-- Put a table in the place of the one with its name, if there is one. -/
def put (catalog : Catalog) (table : Table) : Catalog :=
  ⟨table :: (catalog.remove table.name).tables⟩

theorem find?_empty (name : String) : empty.find? name = none := rfl

theorem find?_remove (catalog : Catalog) (removed name : String) :
    (catalog.remove removed).find? name =
      if name = removed then none else catalog.find? name := by
  unfold remove find?
  rw [List.find?_filter]
  split
  · next same =>
      subst same
      simp
  · next other =>
      congr 1
      funext table
      by_cases here : table.name = name <;> simp [here, other]

theorem find?_put (catalog : Catalog) (table : Table) (name : String) :
    (catalog.put table).find? name =
      if table.name = name then some table else catalog.find? name := by
  by_cases same : table.name = name
  · simp [put, find?, same]
  · have kept := catalog.find?_remove table.name name
    rw [if_neg (Ne.symm same)] at kept
    unfold put
    simp only [find?, List.find?_cons, same, decide_false, if_false] at kept ⊢
    exact kept

end Catalog

end ColumnStore
