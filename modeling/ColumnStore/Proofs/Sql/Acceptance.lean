import ColumnStore.Proofs.Sql.Spelling

/-!
# What the readers of statements accept

The tokens of a canonical text are read as what it was written for. A reader takes the tokens of
some pieces when it answers from them, whatever comes behind, and leaves what comes behind
(`Parser.Takes`). Behind a name there must be no point, since the reader would take the name for
that of the schema; behind a type no parenthesis; behind a list no comma. Placeholders get their
numbers as they are read.

Main result: `Parser.takes_statement`.
-/

set_option autoImplicit false

namespace ColumnStore

open Lexeme (commas enclosed natural allTokens)

namespace Parser

/-! ## Taking pieces -/

/-- A token that a reader looks for and goes without if it is not there. -/
inductive Mark
  | symbol (character : Char)
  | keyword (word : String)
  deriving DecidableEq

/-- Whether a token is the mark. -/
def Mark.test : Mark → Token → Bool
  | symbol character => fun token => token = .symbol character
  | keyword word => isKeyword word

/-- The tokens do not start with one of the marks. -/
def Apart (marks : List Mark) (tokens : List Token) : Prop :=
  ∀ mark ∈ marks, ∀ token ∈ tokens.head?, mark.test token = false

@[simp] theorem apart_nil (tokens : List Token) : Apart [] tokens := by
  simp [Apart]

@[simp] theorem apart_end (marks : List Mark) : Apart marks [] := by
  simp [Apart]

@[simp] theorem apart_cons {marks : List Mark} {token : Token} {rest : List Token} :
    Apart marks (token :: rest) ↔ ∀ mark ∈ marks, mark.test token = false := by
  simp [Apart]

theorem apart_symbol {marks : List Mark} {character : Char} {rest : List Token}
    (other : .symbol character ∉ marks) : Apart marks (.symbol character :: rest) := by
  refine apart_cons.2 fun mark member => ?_
  cases mark with
  | symbol wanted =>
      refine decide_eq_false fun same => other ?_
      cases same
      exact member
  | keyword word => rfl

/-- Behind a name there may be any word, since only a point would be read along. -/
theorem apart_word (name : String) (rest : List Token) :
    Apart [.symbol '.'] (.word name :: rest) := by
  simp [Mark.test]

theorem Apart.mono {more fewer : List Mark} {tokens : List Token} (apart : Apart more tokens)
    (subset : fewer ⊆ more) : Apart fewer tokens :=
  fun mark member => apart mark (subset member)

/-- With so many placeholders read before, and so many then, the reader answers from the tokens
of the pieces if what comes behind does not start with one of the marks. -/
def Takes (marks : List Mark) {α : Type} (reader : Reader α) (start : Nat)
    (lexemes : List Lexeme) (answer : α) (finish : Nat) : Prop :=
  ∀ rest, Apart marks rest →
    reader ⟨allTokens lexemes ++ rest, start⟩ = .ok (answer, ⟨rest, finish⟩)

section Rules

variable {α β : Type} {marks : List Mark} {start middle finish : Nat} {front back : List Lexeme}

theorem bind_of_ok {first : Reader α} {next : α → Reader β} {input rest : Input} {answer : α}
    (read : first input = .ok (answer, rest)) : (first >>= next) input = next answer rest := by
  show (first input >>= fun pair => next pair.1 pair.2) = _
  rw [read]
  rfl

theorem takes_pure (answer : α) : Takes marks (pure answer) start [] answer start :=
  fun _ _ => rfl

/-- Taking some pieces and then others, which must not start with a mark of the first. -/
theorem Takes.bind {inner : List Mark} {first : Reader α} {next : α → Reader β} {half : α}
    {answer : β} (before : Takes inner first start front half middle)
    (after : Takes marks (next half) middle back answer finish)
    (apart : ∀ rest, Apart marks rest → Apart inner (allTokens back ++ rest)) :
    Takes marks (first >>= next) start (front ++ back) answer finish := by
  intro rest behind
  rw [Lexeme.allTokens_append, List.append_assoc, bind_of_ok (before _ (apart rest behind)),
    after rest behind]

/-- Nothing needs to be known of what comes behind the first pieces. -/
theorem Takes.bind_any {first : Reader α} {next : α → Reader β} {half : α} {answer : β}
    (before : Takes [] first start front half middle)
    (after : Takes marks (next half) middle back answer finish) :
    Takes marks (first >>= next) start (front ++ back) answer finish :=
  before.bind after fun _ _ => apart_nil _

/-- One reader after another one that answers nothing. -/
theorem Takes.andThen {first : Reader Unit} {second : Reader β} {answer : β}
    (before : Takes [] first start front () middle)
    (after : Takes marks second middle back answer finish) :
    Takes marks (do first; second) start (front ++ back) answer finish :=
  before.bind_any after

theorem Takes.mono {fewer : List Mark} {reader : Reader α} {lexemes : List Lexeme} {answer : α}
    (takes : Takes fewer reader start lexemes answer finish) (subset : fewer ⊆ marks) :
    Takes marks reader start lexemes answer finish :=
  fun rest behind => takes rest (behind.mono subset)

/-- Only the tokens of the pieces matter. -/
theorem Takes.of_tokens {reader : Reader α} {lexemes others : List Lexeme} {answer : α}
    (takes : Takes marks reader start others answer finish)
    (same : allTokens lexemes = allTokens others) :
    Takes marks reader start lexemes answer finish := by
  intro rest behind
  rw [same, takes rest behind]

/-- The second reader takes nothing. -/
theorem Takes.bind_last {first : Reader α} {next : α → Reader β} {half : α} {answer : β}
    {lexemes : List Lexeme} (before : Takes marks first start lexemes half middle)
    (after : Takes marks (next half) middle [] answer finish) :
    Takes marks (first >>= next) start lexemes answer finish := by
  intro rest behind
  rw [bind_of_ok (before rest behind)]
  exact after rest behind

/-- The second reader only answers. -/
theorem Takes.bind_pure {first : Reader α} {next : α → Reader β} {half : α} {answer : β}
    {lexemes : List Lexeme} (before : Takes marks first start lexemes half finish)
    (answered : next half = pure answer) :
    Takes marks (first >>= next) start lexemes answer finish :=
  before.bind_last (answered ▸ takes_pure answer)

theorem Takes.map {reader : Reader α} {lexemes : List Lexeme} {answer : α}
    (takes : Takes marks reader start lexemes answer finish) (change : α → β) :
    Takes marks (do return change (← reader)) start lexemes (change answer) finish :=
  takes.bind_pure rfl

/-- A computation that reads nothing. -/
theorem takes_lift {attempt : Except Failure α} {answer : α} (succeeded : attempt = .ok answer) :
    Takes marks (liftM attempt) start [] answer start := by
  subst succeeded
  exact fun _ _ => rfl

/-- An optional token that is there. -/
theorem takes_skipIf {test : Token → Bool} {lexeme : Lexeme} {token : Token}
    (one : lexeme.tokens = [token]) (passed : test token = true) :
    Takes marks (skipIf test) start [lexeme] true start := by
  intro rest _
  rw [Lexeme.allTokens_cons, one, Lexeme.allTokens_nil]
  show (if test token then _ else _) = _
  rw [if_pos passed]
  rfl

/-- An optional token that is not there: what comes next, or comes behind, is another one. -/
theorem Takes.skip {test : Token → Bool} {next : Bool → Reader β} {lexemes : List Lexeme}
    {answer : β} (after : Takes marks (next false) start lexemes answer finish)
    (other : ∀ rest, Apart marks rest →
      ∀ token ∈ (allTokens lexemes ++ rest).head?, test token = false) :
    Takes marks (skipIf test >>= next) start lexemes answer finish := by
  intro rest behind
  have skipped : skipIf test ⟨allTokens lexemes ++ rest, start⟩ =
      .ok (false, ⟨allTokens lexemes ++ rest, start⟩) := by
    have first := other rest behind
    unfold skipIf
    split
    · rfl
    · next token others front =>
        have failed := first token (by rw [show allTokens lexemes ++ rest = _ from front]; rfl)
        rw [if_neg (by simp [failed])]
  rw [bind_of_ok skipped, after rest behind]

/-- The text goes on with another keyword. -/
theorem Takes.skip_word {keyword letters : String} {next : Bool → Reader β} {answer : β}
    (other : CharacterClass.sameIgnoringCase letters keyword = false)
    (after : Takes marks (next false) start (.word letters :: back) answer finish) :
    Takes marks (skipKeyword keyword >>= next) start (.word letters :: back) answer finish := by
  refine after.skip fun rest _ token first => ?_
  cases first
  exact other

/-- The next token decides how to go on. -/
theorem Takes.of_next {next : Token → Reader β} {lexeme : Lexeme} {token : Token} {answer : β}
    (one : lexeme.tokens = [token]) (after : Takes marks (next token) start back answer finish) :
    Takes marks (Parser.next >>= next) start (lexeme :: back) answer finish := by
  intro rest behind
  rw [Lexeme.allTokens_cons, one, List.append_assoc, ← after rest behind]
  rfl

theorem takes_keyword (keyword letters : String)
    (same : CharacterClass.sameIgnoringCase letters keyword = true) :
    Takes marks (Parser.keyword keyword) start [.word letters] () start := by
  have taken : Takes marks (skipKeyword keyword) start [.word letters] true start :=
    takes_skipIf rfl same
  exact taken.bind_pure rfl

theorem takes_skipSymbol (mark : Char) :
    Takes marks (skipSymbol mark) start [.symbol mark] true start :=
  takes_skipIf rfl (decide_eq_true rfl)

theorem takes_symbol (mark : Char) :
    Takes marks (symbol mark) start [.symbol mark] () start :=
  (takes_skipSymbol mark).bind_pure rfl

/-- A name in lower case, which no point follows. -/
theorem takes_identifier {lexeme : Lexeme} {name : String} (one : lexeme.tokens = [.word name])
    (lower : CharacterClass.lowerCase name = name) :
    Takes [.symbol '.'] identifier start [lexeme] name start := by
  intro rest behind
  have found : identifierOf (.word name :: rest) = .ok (name, rest) := by
    unfold identifierOf
    rw [lower]
    show (if name = "sys" then _ else _) = _
    split
    · split
      · exact absurd (behind _ List.mem_cons_self _ rfl) (by decide)
      · rfl
    · rfl
  rw [Lexeme.allTokens_cons, one]
  show (identifierOf (.word name :: rest) >>= _) = _
  rw [found]
  rfl

end Rules

/-! ## Lists -/

section Lists

variable {α : Type} {marks : List Mark} {item : Reader α} {lexemes : α → List Lexeme}
  {expressions : α → List Expression}

/-- The reader takes the pieces of each element in a list, with the numbers of its placeholders. -/
def TakesEach (marks : List Mark) (item : Reader α) (lexemes : α → List Lexeme)
    (expressions : α → List Expression) (items : List α) : Prop :=
  ∀ element ∈ items, ∀ ⦃start finish : Nat⦄, Numbered start (expressions element) finish →
    Takes marks item start (lexemes element) element finish

/-- Elements without placeholders. -/
theorem TakesEach.of_takes {items : List α}
    (takes : ∀ element ∈ items, ∀ start, Takes marks item start (lexemes element) element start) :
    TakesEach marks item lexemes (fun _ => []) items := by
  intro element member start finish numbered
  cases numbered
  exact takes element member start

theorem numbered_none (items : List α) (start : Nat) :
    Numbered start (items.flatMap fun _ => []) start := by
  rw [List.flatMap_eq_nil_iff.2 fun _ _ => rfl]
  exact .nil start

/-- Behind an item there is a comma, or what comes behind the list. -/
theorem takes_separatedUpTo (open_ : .symbol ',' ∉ marks) {items : List α} (some_ : items ≠ [])
    (each : TakesEach marks item lexemes expressions items) {limit : Nat}
    (enough : items.length ≤ limit + 1) {start finish : Nat}
    (numbered : Numbered start (items.flatMap expressions) finish) :
    Takes (.symbol ',' :: marks) (separatedUpTo item limit) start (commas (items.map lexemes)) items
      finish := by
  have inside : marks ⊆ .symbol ',' :: marks := List.subset_cons_self _ marks
  induction items generalizing limit start with
  | nil => exact absurd rfl some_
  | cons first others ih =>
      rw [List.flatMap_cons, numbered_append] at numbered
      obtain ⟨between, here, later⟩ := numbered
      have taken := (each first List.mem_cons_self here).mono inside
      cases others with
      | nil =>
          cases later
          cases limit with
          | zero => exact taken.bind_pure rfl
          | succ limit =>
              exact taken.bind_last (Takes.skip (takes_pure [first])
                fun _ behind => behind _ List.mem_cons_self)
      | cons second others =>
          cases limit with
          | zero => simp at enough
          | succ limit =>
              have fewer : (second :: others).length ≤ limit + 1 := by simpa using enough
              have tail := ih (by simp)
                (fun element member => each element (List.mem_cons_of_mem _ member)) fewer later
              refine (each first List.mem_cons_self here).bind
                ((takes_skipSymbol ',').bind_any (tail.bind_pure rfl)) fun _ _ => apart_symbol open_

/-- Every piece has a token, and between items there are commas. -/
theorem length_le_commas (items : List (List Lexeme)) :
    items.length ≤ (allTokens (commas items)).length + 1 := by
  induction items with
  | nil => simp
  | cons first others ih =>
      cases others with
      | nil => simp
      | cons second others =>
          have comma : allTokens (commas (first :: second :: others)) =
              allTokens first ++ Token.symbol ',' :: allTokens (commas (second :: others)) := by
            rw [commas, Lexeme.allTokens_append]
            rfl
          rw [comma, List.length_append, List.length_cons]
          simp only [List.length_cons] at ih ⊢
          omega

theorem takes_separated (open_ : .symbol ',' ∉ marks) {items : List α} (some_ : items ≠ [])
    (each : TakesEach marks item lexemes expressions items) {start finish : Nat}
    (numbered : Numbered start (items.flatMap expressions) finish) :
    Takes (.symbol ',' :: marks) (separated item) start (commas (items.map lexemes)) items
      finish := by
  intro rest behind
  have length := length_le_commas (items.map lexemes)
  rw [List.length_map] at length
  refine takes_separatedUpTo open_ some_ each ?_ numbered rest behind
  rw [List.length_append]
  omega

/-- Between parentheses a list is closed by the second one. -/
theorem takes_closed (open_ : .symbol ',' ∉ marks) (inner : .symbol ')' ∉ marks) {items : List α}
    (some_ : items ≠ []) (each : TakesEach marks item lexemes expressions items)
    {start finish : Nat} (numbered : Numbered start (items.flatMap expressions) finish)
    {β : Type} {next : List α → Reader β} {answer : β} {outer : List Mark}
    (closed : next items = (do symbol ')'; return answer)) :
    Takes outer (separated item >>= next) start (commas (items.map lexemes) ++ [.symbol ')'])
      answer finish := by
  refine (takes_separated open_ some_ each numbered).bind ?_ fun _ _ =>
    apart_symbol (List.not_mem_cons_of_ne_of_not_mem (by decide) inner)
  rw [closed]
  exact (takes_symbol ')').bind_pure rfl

theorem takes_parenthesized (open_ : .symbol ',' ∉ marks) (inner : .symbol ')' ∉ marks)
    {items : List α} (some_ : items ≠ []) (each : TakesEach marks item lexemes expressions items)
    {start finish : Nat} (numbered : Numbered start (items.flatMap expressions) finish) :
    Takes [] (parenthesized item) start (enclosed (items.map lexemes)) items finish :=
  (takes_symbol '(').bind_any (takes_closed open_ inner some_ each numbered rfl)

end Lists

/-! ## Types -/

section Types

variable {marks : List Mark} {start : Nat}

theorem takes_typeArgument {n : Nat} (small : n < 4294967296) :
    Takes marks typeArgument start [natural n] n start := by
  refine .of_next rfl ?_
  have read : Digits.toNat? (String.ofList (Digits.ofNat n)).toList = some n := by
    rw [String.toList_ofList, Digits.toNat?_of_onlyDigits (Digits.ofNat_ne_nil n)
      (Digits.onlyDigits_ofNat n), Digits.toNat_ofNat]
  simp only [read, Option.filter_some, decide_eq_true small, if_true]
  exact takes_pure n

/-- Without arguments there must be no parenthesis. -/
theorem takes_typeArguments {arguments : List Nat} (small : ∀ n ∈ arguments, n < 4294967296) :
    Takes [.symbol '('] typeArguments start (DeclaredType.argumentLexemes arguments) arguments
      start := by
  cases arguments with
  | nil =>
      exact Takes.skip (takes_pure []) fun _ behind => behind _ List.mem_cons_self
  | cons first others =>
      have each : TakesEach [] typeArgument (fun n => [natural n]) (fun _ => [])
          (first :: others) :=
        .of_takes fun n member start => takes_typeArgument (small n member)
      exact (takes_skipSymbol '(').bind_any (takes_closed List.not_mem_nil List.not_mem_nil
        (List.cons_ne_nil first others) each (numbered_none _ start) rfl)

/-- Arguments of types are of 32 bits, and no type is declared as a size. -/
theorem arguments_of_declarable {type : DeclaredType} (declarable : type.Declarable) :
    type ≠ .integer .size ∧ ∀ n ∈ type.arguments, n < 4294967296 := by
  obtain ⟨name, arguments, small, declared⟩ := declarable
  have first : arguments.head?.getD 0 < 4294967296 := by
    cases arguments with
    | nil => decide
    | cons n others => exact small n List.mem_cons_self
  have decimal (found : DeclaredType.decimalOf arguments = .ok type) :
      type ≠ .integer .size ∧ ∀ n ∈ type.arguments, n < 4294967296 := by
    simp only [DeclaredType.decimalOf] at found
    generalize arguments.head?.getD 18 = digits, arguments[1]?.getD _ = scale at found
    split at found
    · next valid =>
        cases found
        refine ⟨nofun, fun n member => ?_⟩
        simp only [DeclaredType.arguments, List.mem_cons, List.not_mem_nil, or_false] at member
        omega
    · cases found
  unfold DeclaredType.parse DeclaredType.ofLowerName at declared
  split at declared
  all_goals first
    | exact decimal declared
    | (cases declared; done)
    | (cases declared; simp [DeclaredType.arguments, first])

theorem lowerCase_name (type : DeclaredType) : CharacterClass.lowerCase type.name = type.name := by
  cases type with
  | integer kind => cases kind <;> decide
  | varchar length => exact (by decide : CharacterClass.lowerCase "varchar" = "varchar")
  | decimal digits scale valid => exact (by decide : CharacterClass.lowerCase "decimal" = "decimal")
  | _ => decide

/-- **A type that can be declared is declared by its own name and arguments.** -/
theorem parse_name {type : DeclaredType} (declarable : type.Declarable) :
    DeclaredType.parse type.name type.arguments = .ok type := by
  rw [DeclaredType.parse, lowerCase_name]
  cases type with
  | integer kind =>
      cases kind with
      | size => exact absurd rfl (arguments_of_declarable declarable).1
      | _ => rfl
  | varchar length => simp [DeclaredType.ofLowerName, DeclaredType.name, DeclaredType.arguments]
  | decimal digits scale valid =>
      simp [DeclaredType.ofLowerName, DeclaredType.name, DeclaredType.arguments,
        DeclaredType.decimalOf, valid]
  | _ => rfl

/-- The declaration of a column, which neither a point nor a parenthesis follows. -/
theorem takes_columnDeclaration {column : ColumnDeclaration} (formed : column.Over AnyChar) :
    Takes [.symbol '.', .symbol '('] columnDeclaration start column.lexemes column start := by
  obtain ⟨name, type⟩ := column
  have small := (arguments_of_declarable formed.typed).2
  have typed : Takes [.symbol '.', .symbol '('] (do
      let arguments ← typeArguments
      return ColumnDeclaration.mk name (← DeclaredType.parse type.name arguments)) start
        (DeclaredType.argumentLexemes type.arguments) ⟨name, type⟩ start :=
    ((takes_typeArguments small).mono (List.subset_cons_self _ _)).bind_last
      ((takes_lift (parse_name formed.typed)).bind_pure rfl)
  refine (takes_identifier rfl formed.named.1).bind
    ((takes_identifier rfl (lowerCase_name type)).bind typed fun rest behind => ?_)
    fun _ _ => apart_word _ _
  cases arguments : type.arguments with
  | nil => exact behind.mono (by simp)
  | cons first others => exact apart_symbol (by decide)

end Types

/-! ## Expressions -/

section Expressions

variable {start : Nat}

/-- Digits behind an optional minus sign are an integer, of 128 bits only if it needs them. -/
theorem numberValue_integer {kind : IntegerKind} {n : kind.Number}
    (literal : (Value.integer kind n).LiteralOver AnyChar) :
    numberValue (Digits.signed (n.val < 0) (Digits.ofNat n.val.natAbs)) =
      .ok (.integer kind n) := by
  have digits := Digits.onlyDigits_ofNat n.val.natAbs
  have noPoint : (Digits.signed (n.val < 0) (Digits.ofNat n.val.natAbs)).contains '.' = false := by
    have apart : '.' ∉ Digits.ofNat n.val.natAbs := fun member =>
      absurd (digits _ member) (by decide)
    cases decide (n.val < 0) <;> simp [Digits.signed, apart]
  have read : Digits.signedInt? (Digits.signed (n.val < 0) (Digits.ofNat n.val.natAbs)) =
      some n.val := by
    rw [Digits.signedInt?_signed (Digits.ofNat_ne_nil _) digits, Digits.toNat_ofNat]
    by_cases negative : n.val < 0
    · simp only [negative, decide_true, if_true]
      congr
      omega
    · simp only [negative, decide_false, Bool.false_eq_true, if_false]
      congr
      omega
  unfold numberValue
  rw [noPoint, read]
  cases kind with
  | int64 => simp only [Bool.false_eq_true, if_false, IntegerKind.ofInt?_val]
  | int128 =>
      have wide : IntegerKind.int64.ofInt? n.val = none := literal
      simp only [Bool.false_eq_true, if_false, wide, IntegerKind.ofInt?_val]
  | _ => exact literal.elim

/-- A number with a point is a decimal of as many places as are written. -/
theorem numberValue_decimal {number : Decimal}
    (literal : (Value.decimal number).LiteralOver AnyChar) :
    numberValue number.plain = .ok (.decimal number) := by
  have point : number.plain.contains '.' = true := by
    have inside : '.' ∈ number.plainDigits := by simp [Decimal.plainDigits]
    rw [Decimal.plain]
    cases decide (number.unscaled < 0) <;> simp [Digits.signed, inside]
  unfold numberValue
  rw [if_pos point, Decimal.parseChars?_plain literal.1 literal.2]

/-- The sign of a number is a token of its own. -/
theorem takes_number {negative : Bool} {written : List Char} {value : Value}
    (read : numberValue (Digits.signed negative written) = .ok value) :
    Takes [] expression start [.number negative written] (.literal value) start := by
  have same : numberValue (Digits.signed negative (String.ofList written).toList) = .ok value := by
    rw [String.toList_ofList, read]
  cases negative with
  | true =>
      have signed : Takes [] expression start [.symbol '-', .number false written]
          (.literal value) start :=
        (takes_skipSymbol '-').bind_any (.of_next rfl ((takes_lift same).map _))
      exact signed.of_tokens rfl
  | false =>
      refine Takes.skip (.of_next rfl ((takes_lift same).map _)) fun rest _ token first => ?_
      cases first
      rfl

/-- The keyword of a date, a time or a timestamp is followed by a text. -/
theorem takes_literalText (content : String) :
    Takes [] literalText start [.text content] content start :=
  .of_next rfl (takes_pure content)

/-- A literal that starts with a word. -/
theorem takes_word {letters : String} {back : List Lexeme} {value : Value}
    (takes : Takes [] (wordValue letters) start back value start) :
    Takes [] expression start (.word letters :: back) (.literal value) start := by
  refine Takes.skip (.of_next rfl (takes.map _)) fun rest _ token first => ?_
  cases first
  rfl

theorem takes_literal {value : Value} (literal : value.LiteralOver AnyChar) :
    Takes [] expression start value.lexemes (.literal value) start := by
  cases value with
  | null => exact takes_word (takes_pure _)
  | bool truth =>
      cases truth with
      | true => exact takes_word (takes_pure _)
      | false => exact takes_word (takes_pure _)
  | integer kind n => exact takes_number (numberValue_integer literal)
  | str text =>
      refine Takes.skip (.of_next rfl (takes_pure _)) fun rest _ token first => ?_
      cases first
      rfl
  | date day =>
      have read : Coercion.readDate day.interchangeText = .ok day := by
        rw [Coercion.readDate, Calendar.readDate?_interchangeText]
      exact takes_word ((takes_literalText _).bind_last ((takes_lift read).bind_pure rfl))
  | time instant =>
      have read : Coercion.readTime instant.interchangeText = .ok instant := by
        rw [Coercion.readTime, Calendar.readTime?_interchangeText]
      exact takes_word ((takes_literalText _).bind_last ((takes_lift read).bind_pure rfl))
  | timestamp instant =>
      have read : Coercion.readTimestamp (instant.interchangeText " ") = .ok instant := by
        rw [Coercion.readTimestamp, Calendar.readTimestamp?_interchangeText]
      exact takes_word ((takes_literalText _).bind_last ((takes_lift read).bind_pure rfl))
  | decimal number => exact takes_number (numberValue_decimal literal)
  | float number => exact literal.elim
  | double number => exact literal.elim
  | blob bytes => exact literal.elim

/-- A placeholder gets the number of those before it. -/
theorem takes_expression {expression : Expression} (formed : expression.Over AnyChar)
    {finish : Nat} (numbered : Numbered start [expression] finish) :
    Takes [] Parser.expression start expression.lexemes expression finish := by
  cases numbered with
  | literal value others =>
      cases others
      exact takes_literal formed
  | placeholder others =>
      cases others
      have hole : Takes [] Parser.numbered start [] (.placeholder start) (start + 1) :=
        fun _ _ => rfl
      refine Takes.skip (.of_next rfl hole) fun rest _ token first => ?_
      cases first
      rfl

end Expressions

/-! ## Statements -/

section Statements

variable {start finish : Nat}

/-- Without a condition there must be no keyword of one. -/
theorem takes_filter {condition : Option Filter}
    (formed : ∀ found ∈ condition, found.Over AnyChar)
    (numbered : Numbered start (condition.map (·.value)).toList finish) :
    Takes [.keyword "where"] filter start (Filter.lexemes? condition) condition finish := by
  cases condition with
  | none =>
      cases numbered
      exact Takes.skip (takes_pure none) fun _ behind => behind _ List.mem_cons_self
  | some found =>
      obtain ⟨named, valued⟩ := formed found rfl
      have value := (takes_expression valued numbered).mono (List.nil_subset [.keyword "where"])
      have equals := (takes_symbol '=').andThen
        (value.map fun value => some (Filter.mk found.column value))
      exact (takes_skipIf rfl (by decide)).bind_any
        ((takes_identifier rfl named.1).bind equals fun _ _ => apart_symbol (by decide))

/-- What may not come behind a condition may not come behind what is before it. -/
theorem apart_filter {character : Char} {marks : List Mark} {rest : List Token}
    (behind : Apart marks rest) (member : .symbol character ∈ marks) (condition : Option Filter) :
    Apart [.symbol character] (allTokens (Filter.lexemes? condition) ++ rest) := by
  cases condition with
  | none => exact behind.mono (by simpa using member)
  | some found => simp [Filter.lexemes?, Lexeme.tokens, Mark.test]

theorem takes_assignment {change : Assignment} (formed : change.Over AnyChar)
    (numbered : Numbered start [change.value] finish) :
    Takes [] assignment start change.lexemes change finish := by
  have equals := (takes_symbol '=').andThen
    ((takes_expression formed.valued numbered).map (Assignment.mk change.column))
  exact (takes_identifier rfl formed.named.1).bind equals fun _ _ => apart_symbol (by decide)

theorem takes_createTable {table : String} {columns : List ColumnDeclaration}
    (formed : (Statement.createTable table columns).Over AnyChar) :
    Takes [] createTable start (.name table :: enclosed (columns.map ColumnDeclaration.lexemes))
      (.createTable table columns) start := by
  obtain ⟨named, some_, typed⟩ := formed
  have each : TakesEach [.symbol '.', .symbol '('] columnDeclaration ColumnDeclaration.lexemes
      (fun _ => []) columns :=
    .of_takes fun column member _ => takes_columnDeclaration (typed column member)
  have list := takes_parenthesized (by decide) (by decide) some_ each (numbered_none _ start)
  exact (takes_identifier rfl named.1).bind (list.map (Statement.createTable table))
    fun _ _ => apart_symbol (by decide)

/-- Names between commas. -/
theorem takesEach_names {names : List String} (named : ∀ name ∈ names, NameOver AnyChar name) :
    TakesEach [.symbol '.'] identifier (fun name => [.name name]) (fun _ => []) names :=
  .of_takes fun name member _ => takes_identifier rfl (named name member).1

/-- Without a list of columns there must be no parenthesis. -/
theorem takes_columnList {columns : Option (List String)}
    (named : ∀ names ∈ columns, SomeAll (NameOver AnyChar) names) :
    Takes [.symbol '('] columnList start (Statement.columnListLexemes columns) columns start := by
  cases columns with
  | none => exact Takes.skip (takes_pure none) fun _ behind => behind _ List.mem_cons_self
  | some names =>
      obtain ⟨some_, each⟩ := named names rfl
      exact (takes_skipSymbol '(').bind_any (takes_closed (by decide) (by decide) some_
        (takesEach_names each) (numbered_none _ start) rfl)

theorem takes_insert {table : String} {columns : Option (List String)}
    {rows : List (List Expression)} (formed : (Statement.insert table columns rows).Over AnyChar)
    (numbered : Numbered start rows.flatten finish) :
    Takes [.symbol ','] insert start
      (.name table :: Statement.columnListLexemes columns ++
        .word "VALUES" :: commas (rows.map fun row => enclosed (row.map Expression.lexemes)))
      (.insert table columns rows) finish := by
  obtain ⟨named, listed, some_, filled⟩ := formed
  have each : TakesEach [] (parenthesized expression)
      (fun row => enclosed (row.map Expression.lexemes)) id rows := by
    intro row member start finish numbered
    refine takes_parenthesized (by simp) (by simp) (filled row member).1
      (fun value inside start finish numbered => takes_expression
        ((filled row member).2 value inside) numbered) ?_
    rwa [List.flatMap_singleton']
  have values := takes_separated (by simp) some_ each (by rwa [List.flatMap_id])
  have behind := (takes_keyword "values" "VALUES" (by decide)).andThen
    (values.map (Statement.insert table columns))
  refine (takes_identifier rfl named.1).bind ((takes_columnList listed).bind behind fun _ _ => ?_)
    fun _ _ => ?_
  · simp [Lexeme.tokens, Mark.test]
  cases columns with
  | none => exact apart_word _ _
  | some names => exact apart_symbol (by decide)

/-- Behind the columns of a query there is a word. -/
theorem takes_projection {columns : Option (List String)}
    (named : ∀ names ∈ columns, SomeAll (NameOver AnyChar) names) :
    Takes [.symbol ',', .symbol '.'] projection start (Statement.projectionLexemes columns) columns
      start := by
  cases columns with
  | none => exact (takes_skipIf rfl (by decide)).bind_pure rfl
  | some names =>
      obtain ⟨some_, each⟩ := named names rfl
      have list := takes_separated (by decide) some_ (takesEach_names each) (numbered_none _ start)
      refine Takes.skip (list.map some) fun rest _ token first => ?_
      obtain ⟨name, others, rfl⟩ := List.exists_cons_of_ne_nil some_
      cases others <;> cases first <;> rfl

/-- What may not come behind a statement. -/
def statementMarks : List Mark :=
  [.symbol '.', .symbol ',', .keyword "where"]

theorem takes_select {table : String} {columns : Option (List String)} {condition : Option Filter}
    (formed : (Statement.select table columns condition).Over AnyChar)
    (numbered : Numbered start (condition.map (·.value)).toList finish) :
    Takes statementMarks select start (Statement.projectionLexemes columns ++
      .word "FROM" :: .name table :: Filter.lexemes? condition)
      (.select table columns condition) finish := by
  obtain ⟨named, listed, conditions⟩ := formed
  have filtered : Takes statementMarks (do return .select table columns (← filter)) start
      (Filter.lexemes? condition) (Statement.select table columns condition) finish :=
    ((takes_filter conditions numbered).map _).mono (by decide)
  refine (takes_projection listed).bind ((takes_keyword "from" "FROM" (by decide)).andThen
    ((takes_identifier rfl named.1).bind filtered fun _ behind =>
      apart_filter behind (by decide) condition)) fun _ _ => ?_
  simp [Lexeme.tokens, Mark.test]

theorem takes_update {table : String} {changes : List Assignment} {condition : Option Filter}
    (formed : (Statement.update table changes condition).Over AnyChar)
    (numbered : Numbered start (changes.map (·.value) ++ (condition.map (·.value)).toList) finish) :
    Takes statementMarks update start (.name table :: .word "SET" ::
      commas (changes.map Assignment.lexemes) ++ Filter.lexemes? condition)
      (.update table changes condition) finish := by
  obtain ⟨named, ⟨some_, assigned⟩, conditions⟩ := formed
  obtain ⟨between, first, second⟩ := numbered.exists_of_append
  have filtered : Takes statementMarks (do return .update table changes (← filter)) between
      (Filter.lexemes? condition) (Statement.update table changes condition) finish :=
    ((takes_filter conditions second).map _).mono (by decide)
  have each : TakesEach [] assignment Assignment.lexemes (fun change => [change.value]) changes :=
    fun change member _ _ numbered => takes_assignment (assigned change member) numbered
  rw [List.map_eq_flatMap] at first
  refine (takes_identifier rfl named.1).bind ((takes_keyword "set" "SET" (by decide)).andThen
    ((takes_separated (by simp) some_ each first).bind filtered fun _ behind =>
      apart_filter behind (by decide) condition)) fun _ _ => apart_word _ _

theorem takes_delete {table : String} {condition : Option Filter}
    (formed : (Statement.delete table condition).Over AnyChar)
    (numbered : Numbered start (condition.map (·.value)).toList finish) :
    Takes statementMarks delete start (.name table :: Filter.lexemes? condition)
      (.delete table condition) finish := by
  obtain ⟨named, conditions⟩ := formed
  have filtered : Takes statementMarks (do return .delete table (← filter)) start
      (Filter.lexemes? condition) (Statement.delete table condition) finish :=
    ((takes_filter conditions numbered).map _).mono (by decide)
  exact (takes_identifier rfl named.1).bind filtered fun _ behind =>
    apart_filter behind (by decide) condition

/-- **The pieces of a statement are taken for the statement.** -/
theorem takes_statement {statement : Statement} (formed : statement.Over AnyChar)
    (numbered : Numbered start statement.expressions finish) :
    Takes statementMarks Parser.statement start statement.lexemes statement finish := by
  cases statement with
  | createTable table columns =>
      cases numbered
      have created : Takes statementMarks createTable start _ _ start :=
        (takes_createTable formed).mono (List.nil_subset _)
      exact (takes_skipIf rfl (by decide)).bind_any
        ((takes_keyword "table" "TABLE" (by decide)).andThen created)
  | dropTable table =>
      cases numbered
      have named : Takes [.symbol '.'] identifier start [.name table] table start :=
        takes_identifier rfl formed.1
      have dropped : Takes statementMarks (do return .dropTable (← identifier)) start
          [.name table] (Statement.dropTable table) start := (named.map _).mono (by decide)
      exact .skip_word (by decide) <| (takes_skipIf rfl (by decide)).bind_any
        ((takes_keyword "table" "TABLE" (by decide)).andThen dropped)
  | insert table columns rows =>
      have filled : Takes statementMarks insert start _ _ finish :=
        (takes_insert formed numbered).mono (by decide)
      exact .skip_word (by decide) <| .skip_word (by decide) <|
        (takes_skipIf rfl (by decide)).bind_any
          ((takes_keyword "into" "INTO" (by decide)).andThen filled)
  | select table projection filter =>
      exact .skip_word (by decide) <| .skip_word (by decide) <| .skip_word (by decide) <|
        (takes_skipIf rfl (by decide)).bind_any (takes_select formed numbered)
  | update table assignments filter =>
      exact .skip_word (by decide) <| .skip_word (by decide) <| .skip_word (by decide) <|
        .skip_word (by decide) <|
          (takes_skipIf rfl (by decide)).bind_any (takes_update formed numbered)
  | delete table filter =>
      exact .skip_word (by decide) <| .skip_word (by decide) <| .skip_word (by decide) <|
        .skip_word (by decide) <| .skip_word (by decide) <|
          (takes_skipIf rfl (by decide)).bind_any
            ((takes_keyword "from" "FROM" (by decide)).andThen (takes_delete formed numbered))

end Statements

end Parser

end ColumnStore
