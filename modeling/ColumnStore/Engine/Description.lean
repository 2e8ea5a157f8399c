import ColumnStore.Engine.Result

/-!
# Descriptions of statements

A prepared statement is described by a result of its own: a row for each column it
returns, then a row for each parameter. Only the former name a schema, a table and a
column; a parameter is a row whose column is NULL.
-/

set_option autoImplicit false

namespace ColumnStore

namespace Description

/-- The columns of a description. -/
def columns : List OutputColumn :=
  [⟨"type", .varchar 0⟩, ⟨"digits", .integer .int32⟩, ⟨"scale", .integer .int32⟩,
    ⟨"schema", .varchar 0⟩, ⟨"table", .varchar 0⟩, ⟨"column", .varchar 0⟩,
    ⟨"impl", .varchar 0⟩]

/-- A number as a cell of 32 bits, of which it keeps the low bits. -/
def word (n : Nat) : Value :=
  .integer .int32 (IntegerKind.int32.wrap n)

/-- The row for a column a table returns, or for a parameter. -/
def row (type : DeclaredType) (owner : Option (String × String)) : Row :=
  let named (name : String × String → String) : Value :=
    match owner with
    | some owner => .str (name owner)
    | none => .null
  [.str type.name, word type.digits, word type.scale, named fun _ => "sys",
    named fun owner => owner.1, named fun owner => owner.2, .str type.storage.kernelName]

/-- All rows of a description. -/
def rows (table : String) (outputs : List OutputColumn) (parameters : List DeclaredType) :
    List Row :=
  (outputs.map fun output => row output.type (some (table, output.name))) ++
    parameters.map fun type => row type none

end Description

/-- The description of a statement. -/
def description (layout : TagLayout) (table : String) (outputs : List OutputColumn)
    (parameters : List DeclaredType) : Except Failure NativeResult :=
  NativeResult.ofRows layout "prepare" Description.columns
    (Description.rows table outputs parameters)

end ColumnStore
