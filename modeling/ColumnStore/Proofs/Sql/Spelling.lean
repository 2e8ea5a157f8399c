import ColumnStore.Proofs.Calendar.Reading
import ColumnStore.Proofs.Number.Decimal
import ColumnStore.Proofs.Sql.Numbering
import ColumnStore.Proofs.Sql.Parser
import ColumnStore.Proofs.Sql.Scanning

/-!
# The canonical text of a statement

A statement has a canonical text: its pieces between single blanks. Keywords are in capitals,
names between double quotes, texts between single quotes with each quote in them doubled.
Decimals are in plain notation with a point; dates, times and timestamps follow their keyword as
interchange formats write them; a placeholder is a question mark. The scanner takes such a text
apart into the tokens of its pieces again.

Main result: `Lexeme.ofText_spell`.
-/

set_option autoImplicit false

namespace ColumnStore

/-- A piece of a written statement. -/
inductive Lexeme
  /-- A keyword or the name of a type, which is written as it is. -/
  | word (letters : String)
  /-- A name between double quotes. -/
  | name (identifier : String)
  /-- A number, perhaps behind a minus sign. -/
  | number (negative : Bool) (written : List Char)
  /-- A text between single quotes. -/
  | text (content : String)
  | symbol (character : Char)
  | placeholder

namespace Lexeme

/-- A text with each single quote in it doubled. -/
def doubled (content : List Char) : List Char :=
  content.flatMap fun c => if c = '\'' then ['\'', '\''] else [c]

/-- How a piece is written. -/
def spelling : Lexeme → List Char
  | word letters => letters.toList
  | name identifier => '"' :: identifier.toList ++ ['"']
  | number negative written => Digits.signed negative written
  | text content => '\'' :: doubled content.toList ++ ['\'']
  | symbol character => [character]
  | placeholder => ['?']

/-- The tokens of a piece; a minus sign is one of its own. -/
def tokens : Lexeme → List Token
  | word letters => [.word letters]
  | name identifier => [.word identifier]
  | number negative written =>
      (if negative then [.symbol '-'] else []) ++ [.number (String.ofList written)]
  | text content => [.text content]
  | symbol character => [.symbol character]
  | placeholder => [.placeholder]

/-- The piece can be told from its surroundings: words have letters and nothing else, quoted
names have no double quote, numbers start with a digit and go on with digits and points. -/
def Spelled : Lexeme → Prop
  | word letters => letters.toList ≠ [] ∧ ∀ c ∈ letters.toList, c.isAlpha = true
  | name identifier => ∀ c ∈ identifier.toList, c ≠ '"'
  | number _ written => ∃ first others, written = first :: others ∧
      Digits.isDigit first = true ∧ ∀ c ∈ others, Token.continuesNumber c = true
  | text _ => True
  | symbol character => character ∈ ['(', ')', ',', '*', '=']
  | placeholder => True

/-- Pieces between single blanks. -/
def spell : List Lexeme → List Char
  | [] => []
  | [last] => last.spelling
  | first :: second :: rest => first.spelling ++ ' ' :: spell (second :: rest)

/-- The tokens of pieces. -/
def allTokens (lexemes : List Lexeme) : List Token :=
  lexemes.flatMap tokens

@[simp] theorem allTokens_nil : allTokens [] = [] := rfl

@[simp] theorem allTokens_cons (first : Lexeme) (rest : List Lexeme) :
    allTokens (first :: rest) = first.tokens ++ allTokens rest := rfl

@[simp] theorem allTokens_append (front back : List Lexeme) :
    allTokens (front ++ back) = allTokens front ++ allTokens back :=
  List.flatMap_append

/-! ## Scanning pieces -/

section Scan

open Token

variable {rest : List Char}

theorem isLetter_of_isAlpha {c : Char} (letter : c.isAlpha = true) :
    CharacterClass.isLetter c = true := by
  have bounds := CharacterClass.isAlpha_iff.1 letter
  rw [CharacterClass.isLetter, if_pos (by omega), letter]

/-- A letter starts a word. -/
theorem feed_first_letter {c : Char} (letter : c.isAlpha = true) :
    feed .between c = .ok ([], .inWord [c]) := by
  have bounds := CharacterClass.isAlpha_iff.1 letter
  have apart (mark : Char) (other : mark.toNat < 65) : c ≠ mark := by
    rintro rfl
    omega
  have digit : Digits.isDigit c = false := by
    have number : '9'.toNat = 57 := by decide
    simp only [Digits.isDigit, Bool.and_eq_false_iff, decide_eq_false_iff_not]
    refine .inr fun below => ?_
    have greatest : c.toNat ≤ '9'.toNat := below
    omega
  simp [feed, start, CharacterClass.isBlank_of_isAlpha letter, apart '\'' (by decide),
    apart '"' (by decide), digit, startsWord, isLetter_of_isAlpha letter]

/-- A letter goes on with a word. -/
theorem feed_letter {c : Char} (letter : c.isAlpha = true) (read : List Char) :
    feed (.inWord read) c = .ok ([], .inWord (c :: read)) := by
  have continues : continuesWord c = true := by
    simp [continuesWord, isLetter_of_isAlpha letter]
  rw [feed, if_pos continues]

theorem feed_first_digit {c : Char} (digit : Digits.isDigit c = true) :
    feed .between c = .ok ([], .inNumber [c]) := by
  have other (mark : Char) (apart : Digits.isDigit mark = false) : c ≠ mark :=
    Decimal.isDigit_ne digit apart
  have blank : CharacterClass.isBlank c = false := Calendar.isBlank_of_isDigit digit
  simp [feed, start, blank, other '\'' (by decide), other '"' (by decide), digit]

/-- Characters that go on with a token up to the end of the text are that token. -/
theorem scan_run {mode : List Char → Mode} {first : Char} {others : List Char} {token : Token}
    (starts : feed .between first = .ok ([], mode [first]))
    (goes : ∀ c ∈ others, ∀ read, feed (mode read) c = .ok ([], mode (c :: read)))
    (ends : finish (mode (others.reverse ++ [first])) = .ok [token]) :
    scan .between (first :: others) = .ok [token] := by
  rw [scan_of_feed starts, ← List.append_nil others, scan_collect [first] goes]
  exact ends

theorem collected_run (first : Char) (others : List Char) :
    collected (others.reverse ++ [first]) = String.ofList (first :: others) := by
  rw [collected, List.reverse_append, List.reverse_reverse]
  rfl

theorem scan_word {letters : String} (some_ : letters.toList ≠ [])
    (alpha : ∀ c ∈ letters.toList, c.isAlpha = true) :
    scan .between letters.toList = .ok [.word letters] := by
  have whole : String.ofList letters.toList = letters := String.ofList_toList
  cases written : letters.toList with
  | nil => exact absurd written some_
  | cons first others =>
      rw [written] at alpha whole
      obtain ⟨letter, later⟩ := List.forall_mem_cons.1 alpha
      refine scan_run (feed_first_letter letter) (fun c member => feed_letter (later c member)) ?_
      rw [finish, collected_run, whole]

theorem scan_name {identifier : String} (unquoted : ∀ c ∈ identifier.toList, c ≠ '"') :
    scan .between ('"' :: identifier.toList ++ ['"']) = .ok [.word identifier] := by
  have opened : feed .between '"' = .ok ([], .inName []) := rfl
  have closed : feed (.inName (identifier.toList.reverse ++ [])) '"' =
      .ok ([.word identifier], .between) := by
    rw [feed, if_pos rfl, collected_reverse, String.ofList_toList]
  rw [List.cons_append, scan_of_feed opened,
    scan_collect [] fun c member read => by rw [feed, if_neg (unquoted c member)],
    scan_of_feed_token closed]
  rfl

theorem scan_number {written : List Char} (spelled : ∃ first others, written = first :: others ∧
    Digits.isDigit first = true ∧ ∀ c ∈ others, continuesNumber c = true) :
    scan .between written = .ok [.number (String.ofList written)] := by
  obtain ⟨first, others, rfl, digit, later⟩ := spelled
  refine scan_run (feed_first_digit digit)
    (fun c member read => by rw [feed, if_pos (later c member)]) ?_
  rw [finish, collected_run]

theorem scan_quote (read rest : List Char) :
    scan (.inText read) ('\'' :: rest) = scan (.afterQuote read) rest :=
  scan_of_feed rfl

theorem scan_doubled (content read : List Char) :
    scan (.inText read) (doubled content ++ rest) =
      scan (.inText (content.reverse ++ read)) rest := by
  induction content generalizing read with
  | nil => rfl
  | cons c content ih =>
      have whole : doubled (c :: content) =
          (if c = '\'' then ['\'', '\''] else [c]) ++ doubled content := rfl
      rw [whole, List.reverse_cons, List.append_assoc, List.append_assoc, List.singleton_append,
        ← ih]
      split
      · next quote =>
          subst quote
          have again (rest : List Char) : scan (.afterQuote read) ('\'' :: rest) =
              scan (.inText ('\'' :: read)) rest := scan_of_feed rfl
          rw [List.cons_append, scan_quote, List.singleton_append, again]
      · next other =>
          rw [List.singleton_append]
          apply scan_of_feed
          rw [feed, if_neg other]

theorem scan_text (content : String) :
    scan .between ('\'' :: doubled content.toList ++ ['\'']) = .ok [.text content] := by
  have opened : feed .between '\'' = .ok ([], .inText []) := rfl
  rw [List.cons_append, scan_of_feed opened, scan_doubled, scan_quote, scan, finish,
    collected_reverse, String.ofList_toList]

/-- **A piece is scanned as its tokens.** -/
theorem scan_spelling {lexeme : Lexeme} (spelled : lexeme.Spelled) :
    scan .between lexeme.spelling = .ok lexeme.tokens := by
  cases lexeme with
  | word letters => exact scan_word spelled.1 spelled.2
  | name identifier => exact scan_name spelled
  | number negative written =>
      cases negative with
      | true =>
          have minus : scan .between ('-' :: written) =
              (.symbol '-' :: ·) <$> scan .between written := scan_of_feed_token rfl
          show scan .between ('-' :: written) = _
          rw [minus, scan_number spelled]
          rfl
      | false => exact scan_number spelled
  | text content => exact scan_text content
  | symbol character =>
      simp only [Spelled, List.mem_cons, List.not_mem_nil, or_false] at spelled
      rcases spelled with rfl | rfl | rfl | rfl | rfl <;> decide
  | placeholder => decide

theorem scan_spell {lexemes : List Lexeme} (spelled : ∀ lexeme ∈ lexemes, lexeme.Spelled) :
    scan .between (spell lexemes) = .ok (allTokens lexemes) := by
  induction lexemes with
  | nil => rfl
  | cons first rest ih =>
      obtain ⟨here, others⟩ := List.forall_mem_cons.1 spelled
      cases rest with
      | nil =>
          rw [spell, scan_spelling here, allTokens_cons, allTokens_nil, List.append_nil]
      | cons second rest =>
          rw [spell, scan_append_blank (by decide) (scan_spelling here), ih others]
          rfl

end Scan

/-- **The text of some pieces has just their tokens.** -/
theorem ofText_spell {lexemes : List Lexeme} (spelled : ∀ lexeme ∈ lexemes, lexeme.Spelled) :
    Token.ofText (String.ofList (spell lexemes)) = .ok (allTokens lexemes) := by
  rw [Token.ofText, String.toList_ofList, scan_spell spelled]

/-! ## The pieces of a statement -/

/-- Items between commas. -/
def commas : List (List Lexeme) → List Lexeme
  | [] => []
  | [last] => last
  | first :: second :: rest => first ++ symbol ',' :: commas (second :: rest)

/-- Items between commas, all between parentheses. -/
def enclosed (items : List (List Lexeme)) : List Lexeme :=
  symbol '(' :: commas items ++ [symbol ')']

/-- A natural number. -/
def natural (n : Nat) : Lexeme :=
  number false (Digits.ofNat n)

end Lexeme

open Lexeme (commas enclosed natural)

/-- The arguments that a type is declared with. -/
def DeclaredType.arguments : DeclaredType → List Nat
  | varchar length => [length]
  | decimal digits scale _ => [digits, scale]
  | _ => []

/-- Arguments between parentheses, if there are any. -/
def DeclaredType.argumentLexemes : List Nat → List Lexeme
  | [] => []
  | arguments => enclosed (arguments.map fun n => [natural n])

/-- The name of a type, and its arguments. -/
def DeclaredType.lexemes (type : DeclaredType) : List Lexeme :=
  .word type.name :: argumentLexemes type.arguments

/-- How a literal is written; values of other kinds cannot be. -/
def Value.lexemes : Value → List Lexeme
  | null => [.word "NULL"]
  | bool truth => [.word (if truth then "TRUE" else "FALSE")]
  | integer _ n => [.number (n.val < 0) (Digits.ofNat n.val.natAbs)]
  | str text => [.text text]
  | date day => [.word "DATE", .text day.interchangeText]
  | time instant => [.word "TIME", .text instant.interchangeText]
  | timestamp instant => [.word "TIMESTAMP", .text (instant.interchangeText " ")]
  | decimal number => [.number (number.unscaled < 0) number.plainDigits]
  | float _ => []
  | double _ => []
  | blob _ => []

def Expression.lexemes : Expression → List Lexeme
  | literal value => value.lexemes
  | placeholder _ => [.placeholder]

def ColumnDeclaration.lexemes (column : ColumnDeclaration) : List Lexeme :=
  .name column.name :: column.type.lexemes

/-- A condition with its keyword, if there is one. -/
def Filter.lexemes? : Option Filter → List Lexeme
  | none => []
  | some filter => .word "WHERE" :: .name filter.column :: .symbol '=' :: filter.value.lexemes

def Assignment.lexemes (assignment : Assignment) : List Lexeme :=
  .name assignment.column :: .symbol '=' :: assignment.value.lexemes

namespace Statement

/-- Names between commas. -/
def namesLexemes (names : List String) : List Lexeme :=
  commas (names.map fun name => [.name name])

/-- The columns that rows are for, if they are named. -/
def columnListLexemes : Option (List String) → List Lexeme
  | none => []
  | some names => enclosed (names.map fun name => [.name name])

/-- The columns of a query, or a star. -/
def projectionLexemes : Option (List String) → List Lexeme
  | none => [.symbol '*']
  | some names => namesLexemes names

/-- The pieces of a statement. -/
def lexemes : Statement → List Lexeme
  | createTable table columns =>
      .word "CREATE" :: .word "TABLE" :: .name table ::
        enclosed (columns.map ColumnDeclaration.lexemes)
  | dropTable table => [.word "DROP", .word "TABLE", .name table]
  | insert table columns rows =>
      .word "INSERT" :: .word "INTO" :: .name table :: columnListLexemes columns ++
        .word "VALUES" :: commas (rows.map fun row => enclosed (row.map Expression.lexemes))
  | select table projection filter =>
      .word "SELECT" :: projectionLexemes projection ++
        .word "FROM" :: .name table :: Filter.lexemes? filter
  | update table assignments filter =>
      .word "UPDATE" :: .name table :: .word "SET" ::
        commas (assignments.map Assignment.lexemes) ++ Filter.lexemes? filter
  | delete table filter => .word "DELETE" :: .word "FROM" :: .name table :: Filter.lexemes? filter

/-- The canonical text of a statement. -/
def canonicalText (statement : Statement) : String :=
  String.ofList (Lexeme.spell statement.lexemes)

end Statement

/-! ## All pieces can be told apart -/

/-- Every piece can be told from its surroundings. -/
def AllSpelled (lexemes : List Lexeme) : Prop :=
  ∀ lexeme ∈ lexemes, lexeme.Spelled

@[simp] theorem allSpelled_nil : AllSpelled [] := by
  simp [AllSpelled]

@[simp] theorem allSpelled_cons {first : Lexeme} {rest : List Lexeme} :
    AllSpelled (first :: rest) ↔ first.Spelled ∧ AllSpelled rest := by
  simp [AllSpelled]

@[simp] theorem allSpelled_append {front back : List Lexeme} :
    AllSpelled (front ++ back) ↔ AllSpelled front ∧ AllSpelled back := by
  simp [AllSpelled, or_imp, forall_and]

/-- Any character may occur. -/
abbrev AnyChar (_ : Char) : Prop :=
  True

namespace Lexeme

@[simp] theorem spelled_text (content : String) : (text content).Spelled :=
  trivial

@[simp] theorem spelled_placeholder : placeholder.Spelled :=
  trivial

@[simp] theorem spelled_symbol {character : Char} :
    (symbol character).Spelled ↔ character ∈ ['(', ')', ',', '*', '='] :=
  Iff.rfl

theorem spelled_name {identifier : String} (named : NameOver AnyChar identifier) :
    (name identifier).Spelled :=
  fun c member => (named.2 c member).2

/-- A keyword of letters. -/
theorem spelled_word {letters : String} (alpha : letters.toList.all Char.isAlpha = true)
    (some_ : letters.toList ≠ []) : (word letters).Spelled :=
  ⟨some_, List.all_eq_true.1 alpha⟩

theorem allSpelled_commas {items : List (List Lexeme)} (each : ∀ item ∈ items, AllSpelled item) :
    AllSpelled (commas items) := by
  induction items with
  | nil => exact allSpelled_nil
  | cons first rest ih =>
      obtain ⟨here, others⟩ := List.forall_mem_cons.1 each
      cases rest with
      | nil => exact here
      | cons second rest => simpa [commas, here] using ih others

theorem allSpelled_enclosed {items : List (List Lexeme)}
    (each : ∀ item ∈ items, AllSpelled item) : AllSpelled (enclosed items) := by
  simp [enclosed, allSpelled_commas each]

/-- A digit with digits and points behind it is a number. -/
theorem spelled_number {written : List Char} (negative : Bool) (some_ : written ≠ [])
    (digit : ∀ c, written.head? = some c → Digits.isDigit c = true)
    (continues : ∀ c ∈ written, Token.continuesNumber c = true) :
    (number negative written).Spelled := by
  cases written with
  | nil => exact absurd rfl some_
  | cons first others =>
      exact ⟨first, others, rfl, digit first rfl, fun c member =>
        continues c (List.mem_cons_of_mem _ member)⟩

theorem continuesNumber_of_isDigit {c : Char} (digit : Digits.isDigit c = true) :
    Token.continuesNumber c = true := by
  simp [Token.continuesNumber, digit]

theorem spelled_digits {written : List Char} (negative : Bool) (some_ : written ≠ [])
    (only : Digits.OnlyDigits written) : (number negative written).Spelled :=
  spelled_number negative some_ (fun c head => only c (List.mem_of_mem_head? head))
    fun c member => continuesNumber_of_isDigit (only c member)

@[simp] theorem spelled_natural (n : Nat) : (natural n).Spelled :=
  spelled_digits false (Digits.ofNat_ne_nil n) (Digits.onlyDigits_ofNat n)

end Lexeme

theorem Decimal.spelled_plainDigits (number : Decimal) (negative : Bool) :
    (Lexeme.number negative number.plainDigits).Spelled := by
  obtain ⟨front, back, same, some_, whole, places, -, -⟩ := number.exists_plainDigits_eq
  rw [same]
  refine Lexeme.spelled_number negative (by simp) (fun c head => ?_) fun c member => ?_
  · rw [List.head?_append_of_ne_nil _ some_] at head
    exact whole c (List.mem_of_mem_head? head)
  · rcases List.mem_append.1 member with member | member
    · exact Lexeme.continuesNumber_of_isDigit (whole c member)
    · rcases List.mem_cons.1 member with rfl | member
      · decide
      · exact Lexeme.continuesNumber_of_isDigit (places c member)

theorem DeclaredType.allSpelled_lexemes (type : DeclaredType) : AllSpelled type.lexemes := by
  have named : (Lexeme.word type.name).Spelled := by
    cases type with
    | integer kind => cases kind <;> exact Lexeme.spelled_word (by decide) (by decide)
    | varchar length =>
        show (Lexeme.word "varchar").Spelled
        exact Lexeme.spelled_word (by decide) (by decide)
    | decimal digits scale valid =>
        show (Lexeme.word "decimal").Spelled
        exact Lexeme.spelled_word (by decide) (by decide)
    | _ => exact Lexeme.spelled_word (by decide) (by decide)
  refine allSpelled_cons.2 ⟨named, ?_⟩
  unfold argumentLexemes
  split
  · exact allSpelled_nil
  · exact Lexeme.allSpelled_enclosed (by simp)

theorem Value.allSpelled_lexemes {value : Value} (literal : value.LiteralOver AnyChar) :
    AllSpelled value.lexemes := by
  cases value with
  | null => simpa [lexemes] using Lexeme.spelled_word (by decide) (by decide)
  | bool truth =>
      cases truth <;> simpa [lexemes] using Lexeme.spelled_word (by decide) (by decide)
  | integer kind n =>
      simpa [lexemes] using
        Lexeme.spelled_digits _ (Digits.ofNat_ne_nil _) (Digits.onlyDigits_ofNat _)
  | str text => simp [lexemes]
  | date day => simpa [lexemes] using Lexeme.spelled_word (by decide) (by decide)
  | time instant => simpa [lexemes] using Lexeme.spelled_word (by decide) (by decide)
  | timestamp instant => simpa [lexemes] using Lexeme.spelled_word (by decide) (by decide)
  | decimal number => simpa [lexemes] using number.spelled_plainDigits _
  | float number => exact literal.elim
  | double number => exact literal.elim
  | blob bytes => exact literal.elim

theorem Expression.allSpelled_lexemes {expression : Expression}
    (formed : expression.Over AnyChar) : AllSpelled expression.lexemes := by
  cases expression with
  | literal value => exact Value.allSpelled_lexemes formed
  | placeholder index => simp [lexemes]

theorem Filter.allSpelled_lexemes {filter : Option Filter}
    (formed : ∀ condition ∈ filter, condition.Over AnyChar) :
    AllSpelled (Filter.lexemes? filter) := by
  cases filter with
  | none => exact allSpelled_nil
  | some condition =>
      obtain ⟨named, valued⟩ := formed condition rfl
      simpa [Filter.lexemes?, Lexeme.spelled_name named,
        Expression.allSpelled_lexemes valued] using
          Lexeme.spelled_word (by decide) (by decide)

theorem Statement.allSpelled_names {names : List String}
    (named : SomeAll (NameOver AnyChar) names) :
    ∀ item ∈ names.map fun name => [Lexeme.name name], AllSpelled item := by
  intro item member
  obtain ⟨name, inside, rfl⟩ := List.mem_map.1 member
  simpa using Lexeme.spelled_name (named.2 name inside)

/-- **The pieces of a statement of the right form can be told apart.** -/
theorem Statement.allSpelled_lexemes {statement : Statement}
    (formed : statement.Over AnyChar) : AllSpelled statement.lexemes := by
  have keyword {letters : String} (alpha : letters.toList.all Char.isAlpha = true)
      (some_ : letters.toList ≠ []) := Lexeme.spelled_word alpha some_
  cases statement with
  | createTable table columns =>
      simp only [lexemes, allSpelled_cons]
      refine ⟨keyword (by decide) (by decide), keyword (by decide) (by decide),
        Lexeme.spelled_name formed.1, Lexeme.allSpelled_enclosed fun item member => ?_⟩
      obtain ⟨column, inside, rfl⟩ := List.mem_map.1 member
      exact allSpelled_cons.2 ⟨Lexeme.spelled_name (formed.2.2 column inside).named,
        column.type.allSpelled_lexemes⟩
  | dropTable table =>
      simp only [lexemes, allSpelled_cons]
      exact ⟨keyword (by decide) (by decide), keyword (by decide) (by decide),
        Lexeme.spelled_name formed, allSpelled_nil⟩
  | insert table columns rows =>
      obtain ⟨named, listed, filled⟩ := formed
      have list : AllSpelled (columnListLexemes columns) := by
        cases columns with
        | none => exact allSpelled_nil
        | some names => exact Lexeme.allSpelled_enclosed (allSpelled_names (listed names rfl))
      simp only [lexemes, allSpelled_cons, allSpelled_append, List.cons_append]
      refine ⟨keyword (by decide) (by decide), keyword (by decide) (by decide),
        Lexeme.spelled_name named, list, keyword (by decide) (by decide),
        Lexeme.allSpelled_commas fun item member => ?_⟩
      obtain ⟨row, inside, rfl⟩ := List.mem_map.1 member
      refine Lexeme.allSpelled_enclosed fun item member => ?_
      obtain ⟨expression, among, rfl⟩ := List.mem_map.1 member
      exact Expression.allSpelled_lexemes ((filled.2 row inside).2 expression among)
  | select table projection filter =>
      obtain ⟨named, listed, conditions⟩ := formed
      have list : AllSpelled (projectionLexemes projection) := by
        cases projection with
        | none => simp [projectionLexemes]
        | some names => exact Lexeme.allSpelled_commas (allSpelled_names (listed names rfl))
      simp only [lexemes, allSpelled_cons, allSpelled_append, List.cons_append]
      exact ⟨keyword (by decide) (by decide), list, keyword (by decide) (by decide),
        Lexeme.spelled_name named, Filter.allSpelled_lexemes conditions⟩
  | update table assignments filter =>
      obtain ⟨named, assigned, conditions⟩ := formed
      simp only [lexemes, allSpelled_cons, allSpelled_append, List.cons_append]
      refine ⟨keyword (by decide) (by decide), Lexeme.spelled_name named,
        keyword (by decide) (by decide), Lexeme.allSpelled_commas fun item member => ?_,
        Filter.allSpelled_lexemes conditions⟩
      obtain ⟨assignment, inside, rfl⟩ := List.mem_map.1 member
      obtain ⟨named, valued⟩ := assigned.2 assignment inside
      simp [Assignment.lexemes, Lexeme.spelled_name named, Expression.allSpelled_lexemes valued]
  | delete table filter =>
      simp only [lexemes, allSpelled_cons]
      exact ⟨keyword (by decide) (by decide), keyword (by decide) (by decide),
        Lexeme.spelled_name formed.1, Filter.allSpelled_lexemes formed.2⟩

end ColumnStore
