import ColumnStore.Sql.Coercion
import ColumnStore.Sql.Statement
import ColumnStore.Sql.Token
import ColumnStore.Sql.TypeName

/-!
# Reading SQL statements

A statement is read from the tokens of its text, left to right and without going back.
The state of the reader is the tokens still to come and the number of placeholders read
so far. Keywords are words and are recognised in any letter case; identifiers are
folded to lower case, and the schema `sys` in front of one is dropped.
-/

set_option autoImplicit false

namespace ColumnStore

namespace Parser

/-- What is still to be read, and how many placeholders have been. -/
structure Input where
  tokens : List Token
  placeholders : Nat
  deriving DecidableEq, Repr

/-- A reader of some part of a statement. -/
abbrev Reader (α : Type) := StateT Input (Except Failure) α

/-- Fail at the next token, quoting it. -/
def unexpected {α : Type} : Reader α := fun input =>
  match input.tokens with
  | [] => .error (.unexpected "end of input")
  | token :: _ => .error (.unexpected token.near)

/-- Fail at a token that has been taken, naming it in full. -/
def reject {α : Type} (token : Token) : Reader α := fun _ =>
  .error (.unexpected token.shown)

/-- Take the next token. -/
def next : Reader Token := fun input =>
  match input.tokens with
  | [] => .error (.unexpected "end of input")
  | token :: rest => .ok (token, { input with tokens := rest })

/-- Take the next token if it passes a test. -/
def skipIf (test : Token → Bool) : Reader Bool := fun input =>
  match input.tokens with
  | [] => .ok (false, input)
  | token :: rest =>
      if test token then .ok (true, { input with tokens := rest }) else .ok (false, input)

/-- Whether a token is a keyword. -/
def isKeyword (keyword : String) : Token → Bool
  | .word name => CharacterClass.sameIgnoringCase name keyword
  | _ => false

/-- Take the next token if it is a keyword. -/
def skipKeyword (keyword : String) : Reader Bool :=
  skipIf (isKeyword keyword)

/-- Take the next token if it is a symbol. -/
def skipSymbol (symbol : Char) : Reader Bool :=
  skipIf (· = .symbol symbol)

/-- Take a keyword. -/
def keyword (keyword : String) : Reader Unit := do
  if !(← skipKeyword keyword) then unexpected

/-- Take a symbol. -/
def symbol (symbol : Char) : Reader Unit := do
  if !(← skipSymbol symbol) then unexpected

/-- An identifier at the front of some tokens, and the tokens behind it. -/
def identifierOf : List Token → Except Failure (String × List Token)
  | [] => .error (.unexpected "end of input")
  | .word name :: rest =>
      let name := CharacterClass.lowerCase name
      if name = "sys" then
        match rest with
        | .symbol '.' :: rest => identifierOf rest
        | rest => .ok (name, rest)
      else .ok (name, rest)
  | token :: _ => .error (.unexpected token.shown)

/-- An identifier. -/
def identifier : Reader String := fun input => do
  let (name, rest) ← identifierOf input.tokens
  return (name, { input with tokens := rest })

/-- One or more items between commas, at most one more than the limit. -/
def separatedUpTo {α : Type} (item : Reader α) : Nat → Reader (List α)
  | 0 => return [← item]
  | limit + 1 => do
      let first ← item
      if ← skipSymbol ',' then return first :: (← separatedUpTo item limit)
      else return [first]

/-- One or more items between commas; there cannot be more commas than tokens. -/
def separated {α : Type} (item : Reader α) : Reader (List α) := fun input =>
  separatedUpTo item input.tokens.length input

/-- Items between parentheses, separated by commas. -/
def parenthesized {α : Type} (item : Reader α) : Reader (List α) := do
  symbol '('
  let items ← separated item
  symbol ')'
  return items

/-- An argument of a type: an unsigned 32-bit integer. -/
def typeArgument : Reader Nat := do
  match ← next with
  | .number written =>
      match (Digits.toNat? written.toList).filter (· < 4294967296) with
      | some n => return n
      | none => throw (.unexpected written)
  | token => reject token

/-- The arguments of a type, when there are any. -/
def typeArguments : Reader (List Nat) := do
  if ← skipSymbol '(' then
    let arguments ← separated typeArgument
    symbol ')'
    return arguments
  else return []

/-- The declaration of a column. -/
def columnDeclaration : Reader ColumnDeclaration := do
  let name ← identifier
  let typeName ← identifier
  let arguments ← typeArguments
  return ⟨name, ← DeclaredType.parse typeName arguments⟩

/-- The text of a literal that starts with a keyword. -/
def literalText : Reader String := do
  match ← next with
  | .text content => return content
  | token => reject token

/-- What a number stands for: with a point a decimal, otherwise an integer of 64 bits
or, if those are not enough, of 128. -/
def numberValue (written : List Char) : Except Failure Value :=
  if written.contains '.' then
    match Decimal.parseChars? written with
    | some number => .ok (.decimal number)
    | none => .error (.unexpected (String.ofList written))
  else
    match Digits.signedInt? written with
    | none => .error (.numberTooLarge (String.ofList written))
    | some n =>
        match IntegerKind.int64.ofInt? n, IntegerKind.int128.ofInt? n with
        | some number, _ => .ok (.integer .int64 number)
        | none, some number => .ok (.integer .int128 number)
        | none, none => .error (.numberTooLarge (String.ofList written))

/-- What a word stands for where a value is needed. -/
def wordValue (name : String) : Reader Value := do
  match CharacterClass.lowerCase name with
  | "null" => return .null
  | "true" => return .bool true
  | "false" => return .bool false
  | "date" => return .date (← Coercion.readDate (← literalText))
  | "time" => return .time (← Coercion.readTime (← literalText))
  | "timestamp" => return .timestamp (← Coercion.readTimestamp (← literalText))
  | _ => throw (.unexpected name)

/-- The next placeholder. -/
def numbered : Reader Expression := fun input =>
  .ok (.placeholder input.placeholders,
    { input with placeholders := input.placeholders + 1 })

/-- A value; only numbers can have a minus sign. -/
def expression : Reader Expression := do
  let negative ← skipSymbol '-'
  match ← next with
  | .number written =>
      return .literal (← numberValue (Digits.signed negative written.toList))
  | .placeholder => if negative then reject .placeholder else numbered
  | .text content =>
      if negative then reject (.text content) else return .literal (.str content)
  | .word name => if negative then reject (.word name) else return .literal (← wordValue name)
  | token => reject token

/-- A condition, when there is one. -/
def filter : Reader (Option Filter) := do
  if ← skipKeyword "where" then
    let column ← identifier
    symbol '='
    return some ⟨column, ← expression⟩
  else return none

/-- A new value for a column. -/
def assignment : Reader Assignment := do
  let column ← identifier
  symbol '='
  return ⟨column, ← expression⟩

/-- The rest of CREATE TABLE. -/
def createTable : Reader Statement := do
  let table ← identifier
  let columns ← parenthesized columnDeclaration
  return .createTable table columns

/-- The list of columns that rows are for, when there is one. -/
def columnList : Reader (Option (List String)) := do
  if ← skipSymbol '(' then
    let columns ← separated identifier
    symbol ')'
    return some columns
  else return none

/-- The rest of INSERT INTO. -/
def insert : Reader Statement := do
  let table ← identifier
  let columns ← columnList
  keyword "values"
  let rows ← separated (parenthesized expression)
  return .insert table columns rows

/-- The columns of a query, none for all. -/
def projection : Reader (Option (List String)) := do
  if ← skipSymbol '*' then return none
  else return some (← separated identifier)

/-- The rest of SELECT. -/
def select : Reader Statement := do
  let columns ← projection
  keyword "from"
  let table ← identifier
  return .select table columns (← filter)

/-- The rest of UPDATE. -/
def update : Reader Statement := do
  let table ← identifier
  keyword "set"
  let assignments ← separated assignment
  return .update table assignments (← filter)

/-- The rest of DELETE FROM. -/
def delete : Reader Statement := do
  let table ← identifier
  return .delete table (← filter)

/-- A statement. -/
def statement : Reader Statement := do
  if ← skipKeyword "create" then
    keyword "table"
    createTable
  else if ← skipKeyword "drop" then
    keyword "table"
    return .dropTable (← identifier)
  else if ← skipKeyword "insert" then
    keyword "into"
    insert
  else if ← skipKeyword "select" then select
  else if ← skipKeyword "update" then update
  else if ← skipKeyword "delete" then
    keyword "from"
    delete
  else unexpected

/-- A statement, a semicolon or none, and nothing else. -/
def whole : Reader Statement := do
  let statement ← statement
  let _ ← skipSymbol ';'
  match (← get).tokens with
  | [] => return statement
  | token :: _ => reject token

end Parser

/-- Read a statement from the text of one. -/
def Statement.parse (text : String) : Except Failure Statement := do
  let tokens ← Token.ofText text
  let (statement, _) ← Parser.whole ⟨tokens, 0⟩
  return statement

end ColumnStore
