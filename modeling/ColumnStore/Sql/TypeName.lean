import ColumnStore.Sql.Failure
import ColumnStore.TagLayout
import ColumnStore.Text.CharacterClass

/-!
# Names of SQL types

A declaration names its type in any letter case, with arguments between parentheses:
the length of a text, the digits and the scale of a decimal. Types that ignore their
arguments accept any. A decimal without arguments has eighteen digits, three of them
behind the point; with digits alone it has none behind the point.
-/

set_option autoImplicit false

namespace ColumnStore.DeclaredType

/-- The decimal type with these arguments. -/
def decimalOf (arguments : List Nat) : Except Failure DeclaredType :=
  let digits := arguments.head?.getD 18
  let scale := arguments[1]?.getD (if arguments.isEmpty then 3 else 0)
  if valid : 0 < digits ∧ scale ≤ digits ∧ digits ≤ 38 then
    .ok (decimal digits scale valid)
  else .error (.invalidDecimalType digits scale)

/-- The type that a lower case name and its arguments declare. -/
def ofLowerName (name : String) (arguments : List Nat) : Except Failure DeclaredType :=
  match name with
  | "boolean" | "bool" => .ok boolean
  | "tinyint" => .ok (integer .int8)
  | "smallint" => .ok (integer .int16)
  | "int" | "integer" => .ok (integer .int32)
  | "bigint" => .ok (integer .int64)
  | "hugeint" => .ok (integer .int128)
  | "real" => .ok real
  | "float" | "double" => .ok double
  | "varchar" | "char" | "text" | "string" | "clob" =>
      .ok (varchar (arguments.head?.getD 0))
  | "blob" => .ok blob
  | "date" => .ok date
  | "time" => .ok time
  | "timestamp" => .ok timestamp
  | "decimal" | "numeric" => decimalOf arguments
  | unknown => .error (.unknownType unknown)

/-- The type that a name and its arguments declare. -/
def parse (name : String) (arguments : List Nat) : Except Failure DeclaredType :=
  ofLowerName (CharacterClass.lowerCase name) arguments

/-- Refuse a type whose cells the layout has no tag for. -/
def checkLayout (type : DeclaredType) (layout : TagLayout) : Except Failure Unit :=
  if type.storage = .integer .int128 ∧ !layout.hasInt128 then
    match type with
    | decimal digits .. => .error (.precisionUnavailable digits)
    | _ => .error (.unknownType "hugeint")
  else .ok ()

end ColumnStore.DeclaredType
