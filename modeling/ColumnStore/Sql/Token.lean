import ColumnStore.Number.Digits
import ColumnStore.Sql.Failure
import ColumnStore.Text.CharacterClass
import ColumnStore.Text.Quoted

/-!
# Tokens of SQL texts

A text is read character by character by an automaton. `Mode` is what the automaton
remembers of the token it is in, with the characters of that token in reverse; `feed`
reads one character and says which token it ends, and `scan` runs over a text. A quote
inside a text literal is written twice, so after a quote the automaton waits for the
next character before it ends the literal.
-/

set_option autoImplicit false

namespace ColumnStore

/-- A token. Quoted identifiers are words too. -/
inductive Token
  | word (name : String)
  | number (written : String)
  | text (content : String)
  | symbol (character : Char)
  | placeholder
  deriving DecidableEq, Repr

namespace Token

/-- How a token is named in full. -/
def shown : Token → String
  | word name => s!"Word({Quoted.encode name})"
  | number written => s!"Number({Quoted.encode written})"
  | text content => s!"Text({Quoted.encode content})"
  | symbol character => s!"Symbol('{character}')"
  | placeholder => "Placeholder"

/-- How a token is quoted where another one was needed. -/
def near : Token → String
  | word name => name
  | number written => written
  | text content => s!"'{content}'"
  | symbol character => s!"'{character}'"
  | placeholder => "'?'"

/-- The characters that are tokens by themselves. -/
def isSymbol (c : Char) : Bool :=
  c = '(' || c = ')' || c = ',' || c = ';' || c = '*' || c = '=' || c = '-' || c = '.'

/-- Characters that start a word. -/
def startsWord (c : Char) : Bool :=
  CharacterClass.isLetter c || c = '_'

/-- Characters that go on with a word. -/
def continuesWord (c : Char) : Bool :=
  CharacterClass.isLetter c || CharacterClass.isNumeral c || c = '_'

/-- Characters that go on with a number. -/
def continuesNumber (c : Char) : Bool :=
  Digits.isDigit c || c = '.'

/-- What is known of the token being read. -/
inductive Mode
  | between
  | inText (read : List Char)
  /-- Behind a quote that ends the literal or is the first of two. -/
  | afterQuote (read : List Char)
  | inName (read : List Char)
  | inNumber (read : List Char)
  | inWord (read : List Char)
  deriving DecidableEq, Repr

/-- The characters of a token, which were read in reverse. -/
def collected (read : List Char) : String :=
  String.ofList read.reverse

/-- Read the first character of a token or a blank. -/
def start (c : Char) : Except Failure (List Token × Mode) :=
  if CharacterClass.isBlank c then .ok ([], .between)
  else if c = '\'' then .ok ([], .inText [])
  else if c = '"' then .ok ([], .inName [])
  else if Digits.isDigit c then .ok ([], .inNumber [c])
  else if startsWord c then .ok ([], .inWord [c])
  else if c = '?' then .ok ([placeholder], .between)
  else if isSymbol c then .ok ([symbol c], .between)
  else .error (.unexpected s!"'{c}'")

/-- End a token and read the character behind it. -/
def endWith (token : Token) (c : Char) : Except Failure (List Token × Mode) := do
  let (tokens, mode) ← start c
  return (token :: tokens, mode)

/-- Read one character: the tokens it ends, and what is known behind it. -/
def feed : Mode → Char → Except Failure (List Token × Mode)
  | .between, c => start c
  | .inText read, c =>
      .ok ([], if c = '\'' then .afterQuote read else .inText (c :: read))
  | .afterQuote read, c =>
      if c = '\'' then .ok ([], .inText ('\'' :: read)) else endWith (text (collected read)) c
  | .inName read, c =>
      if c = '"' then .ok ([word (collected read)], .between)
      else .ok ([], .inName (c :: read))
  | .inNumber read, c =>
      if continuesNumber c then .ok ([], .inNumber (c :: read))
      else endWith (number (collected read)) c
  | .inWord read, c =>
      if continuesWord c then .ok ([], .inWord (c :: read))
      else endWith (word (collected read)) c

/-- The token that the end of the text ends. -/
def finish : Mode → Except Failure (List Token)
  | .between => .ok []
  | .inText _ => .error .unterminatedText
  | .afterQuote read => .ok [text (collected read)]
  | .inName _ => .error .unterminatedName
  | .inNumber read => .ok [number (collected read)]
  | .inWord read => .ok [word (collected read)]

/-- The tokens of the rest of a text. -/
def scan : Mode → List Char → Except Failure (List Token)
  | mode, [] => finish mode
  | mode, c :: rest => do
      let (tokens, next) ← feed mode c
      let others ← scan next rest
      return tokens ++ others

/-- The tokens of a text. -/
def ofText (text : String) : Except Failure (List Token) :=
  scan .between text.toList

end Token

end ColumnStore
