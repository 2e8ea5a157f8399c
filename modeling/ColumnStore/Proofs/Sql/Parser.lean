import ColumnStore.Proofs.Except
import ColumnStore.Proofs.Number.Decimal
import ColumnStore.Proofs.Sql.Numbering
import ColumnStore.Proofs.Sql.Scanning
import ColumnStore.Proofs.Value
import ColumnStore.Sql.Parser

/-!
# What the reader of statements yields

What is read from a text has a certain form. Names are in lower case and have no double quote
in them, lists have an element, the types of columns are types that can be declared, and
literals are of the kinds that can be written (`Statement.Over`). The placeholders are numbered
from left to right, one for each placeholder token. A property that all characters of the text
share, such as not being NUL, is shared by the names and the texts in the statement.

The scanner keeps the form of the token that it is in (`Token.Mode.Over`). A reader yields a
property when it answers nothing else from tokens of this form, leaves such tokens behind, and
has counted the placeholders among those that it took (`Parser.ReadsFrom`); what a statement
has is put together from what its parts have.

Main results: `Statement.over_of_parse`, `Statement.numbered_of_parse` and
`Statement.wellFormed_of_parse`.
-/

set_option autoImplicit false

namespace ColumnStore

/-! ## Lower case -/

namespace CharacterClass

theorem toNat_lower {c : Char} (capital : 'A' ≤ c ∧ c ≤ 'Z') : (lower c).toNat = c.toNat + 32 := by
  have greatest : c.toNat ≤ 'Z'.toNat := capital.2
  have number : 'Z'.toNat = 90 := by decide
  have valid : (c.toNat + 32).isValidChar := by simp only [Nat.isValidChar]; omega
  rw [lower, if_pos capital, Char.ofNat, dif_pos valid]
  rfl

theorem lower_lower (c : Char) : lower (lower c) = lower c := by
  by_cases capital : 'A' ≤ c ∧ c ≤ 'Z'
  · have number := toNat_lower capital
    have least : 'A'.toNat ≤ c.toNat := capital.1
    have numbers : 'A'.toNat = 65 ∧ 'Z'.toNat = 90 := by decide
    have small : ¬ ('A' ≤ lower c ∧ lower c ≤ 'Z') := fun again => by
      have greatest : (lower c).toNat ≤ 'Z'.toNat := again.2
      omega
    rw [lower, if_neg small]
  · have kept : lower c = c := if_neg capital
    rw [kept, kept]

theorem lowerCase_lowerCase (text : String) : lowerCase (lowerCase text) = lowerCase text := by
  simp only [lowerCase, String.toList_ofList, List.map_map, Function.comp_def, lower_lower]

theorem lower_ne_quote {c : Char} (other : c ≠ '"') : lower c ≠ '"' := by
  by_cases capital : 'A' ≤ c ∧ c ≤ 'Z'
  · intro same
    have number := toNat_lower capital
    have least : 'A'.toNat ≤ c.toNat := capital.1
    have numbers : 'A'.toNat = 65 ∧ '"'.toNat = 34 := by decide
    rw [same] at number
    omega
  · rwa [lower, if_neg capital]

end CharacterClass

/-! ## The form of statements -/

/-- A name as it is read: in lower case, without double quotes, over these characters. -/
def NameOver (char : Char → Prop) (name : String) : Prop :=
  CharacterClass.lowerCase name = name ∧ ∀ c ∈ name.toList, char c ∧ c ≠ '"'

/-- The type can be declared: it has a name and arguments of 32 bits. -/
def DeclaredType.Declarable (type : DeclaredType) : Prop :=
  ∃ name arguments, (∀ n ∈ arguments, n < 4294967296) ∧
    DeclaredType.parse name arguments = .ok type

/-- A value that a literal stands for. Integers are as narrow as they can be, of 64 or of 128
bits, and the scale of a decimal is a count of places of 64 bits. -/
def Value.LiteralOver (char : Char → Prop) : Value → Prop
  | null => True
  | bool _ => True
  | integer .int64 _ => True
  | integer .int128 number => IntegerKind.int64.ofInt? number.val = none
  | integer _ _ => False
  | float _ => False
  | double _ => False
  | str text => ∀ c ∈ text.toList, char c
  | blob _ => False
  | date _ => True
  | time _ => True
  | timestamp _ => True
  | decimal number => 0 ≤ number.scale ∧ number.scale ≤ IntegerKind.int64.maximum

/-- The literal of an expression is one that can be written. -/
def Expression.Over (char : Char → Prop) : Expression → Prop
  | literal value => value.LiteralOver char
  | placeholder _ => True

/-- A column has a name, and a type that can be declared. -/
structure ColumnDeclaration.Over (char : Char → Prop) (column : ColumnDeclaration) : Prop where
  named : NameOver char column.name
  typed : column.type.Declarable

structure Filter.Over (char : Char → Prop) (filter : Filter) : Prop where
  named : NameOver char filter.column
  valued : filter.value.Over char

structure Assignment.Over (char : Char → Prop) (assignment : Assignment) : Prop where
  named : NameOver char assignment.column
  valued : assignment.value.Over char

/-- All elements have a property, and there is at least one. -/
def SomeAll {α : Type} (property : α → Prop) (list : List α) : Prop :=
  list ≠ [] ∧ ∀ element ∈ list, property element

/-- The form of a statement that is read from a text over these characters. -/
def Statement.Over (char : Char → Prop) : Statement → Prop
  | createTable table columns =>
      NameOver char table ∧ SomeAll (ColumnDeclaration.Over char) columns
  | dropTable table => NameOver char table
  | insert table columns rows =>
      NameOver char table ∧ (∀ names ∈ columns, SomeAll (NameOver char) names) ∧
        SomeAll (SomeAll (Expression.Over char)) rows
  | select table projection filter =>
      NameOver char table ∧ (∀ names ∈ projection, SomeAll (NameOver char) names) ∧
        ∀ condition ∈ filter, condition.Over char
  | update table assignments filter =>
      NameOver char table ∧ SomeAll (Assignment.Over char) assignments ∧
        ∀ condition ∈ filter, condition.Over char
  | delete table filter => NameOver char table ∧ ∀ condition ∈ filter, condition.Over char

/-! ## Tokens -/

namespace Token

/-- The form of a token over these characters. Words have no double quote: a bare one consists
of letters and numerals, a quoted one ends at it. -/
def Over (char : Char → Prop) : Token → Prop
  | word name => ∀ c ∈ name.toList, char c ∧ c ≠ '"'
  | number written => ∀ c ∈ written.toList, continuesNumber c = true
  | text content => ∀ c ∈ content.toList, char c
  | symbol _ => True
  | placeholder => True

/-- The characters read of a token have its form. -/
def Mode.Over (char : Char → Prop) : Mode → Prop
  | .between => True
  | .inText read => ∀ c ∈ read, char c
  | .afterQuote read => ∀ c ∈ read, char c
  | .inName read => ∀ c ∈ read, char c ∧ c ≠ '"'
  | .inNumber read => ∀ c ∈ read, continuesNumber c = true
  | .inWord read => ∀ c ∈ read, char c ∧ c ≠ '"'

/-- All tokens have the form. -/
def AllOver (char : Char → Prop) (tokens : List Token) : Prop :=
  ∀ token ∈ tokens, token.Over char

variable {char : Char → Prop}

@[simp] theorem allOver_nil : AllOver char [] := by
  simp [AllOver]

@[simp] theorem allOver_cons {token : Token} {tokens : List Token} :
    AllOver char (token :: tokens) ↔ token.Over char ∧ AllOver char tokens := by
  simp [AllOver]

theorem allOver_append {front back : List Token} :
    AllOver char (front ++ back) ↔ AllOver char front ∧ AllOver char back :=
  List.forall_mem_append

theorem forall_collected {property : Char → Prop} {read : List Char}
    (each : ∀ c ∈ read, property c) : ∀ c ∈ (collected read).toList, property c := by
  intro c member
  rw [collected, String.toList_ofList] at member
  exact each c (List.mem_reverse.1 member)

theorem ne_quote_of_continuesWord {c : Char} (continues : continuesWord c = true) : c ≠ '"' := by
  rintro rfl
  revert continues
  decide

theorem ne_quote_of_startsWord {c : Char} (starts : startsWord c = true) : c ≠ '"' := by
  rintro rfl
  revert starts
  decide

theorem start_over {c : Char} {tokens : List Token} {mode : Mode} (known : char c)
    (started : start c = .ok (tokens, mode)) : AllOver char tokens ∧ mode.Over char := by
  unfold start at started
  split_ifs at started with _ _ _ digit letter <;> cases started
  · simp [Mode.Over]
  · simp [Mode.Over]
  · simp [Mode.Over]
  · simp [Mode.Over, continuesNumber, digit]
  · simp [Mode.Over, known, ne_quote_of_startsWord letter]
  · simp [Over, Mode.Over]
  · simp [Over, Mode.Over]

theorem finish_over {mode : Mode} {tokens : List Token} (formed : mode.Over char)
    (finished : finish mode = .ok tokens) : AllOver char tokens := by
  cases mode <;> cases finished <;> simp [Over]
  all_goals exact forall_collected formed

/-- One character keeps the form of what is known of the token. -/
theorem feed_over {mode next : Mode} {c : Char} {tokens : List Token} (formed : mode.Over char)
    (known : char c) (fed : feed mode c = .ok (tokens, next)) :
    AllOver char tokens ∧ next.Over char := by
  cases fed_of_feed fed with
  | ended finished starts =>
      obtain ⟨first, behind⟩ := start_over known starts
      exact ⟨allOver_append.2 ⟨finish_over formed finished, first⟩, behind⟩
  | text => exact ⟨allOver_nil, List.forall_mem_cons.2 ⟨known, formed⟩⟩
  | quote => exact ⟨allOver_nil, formed⟩
  | secondQuote => exact ⟨allOver_nil, List.forall_mem_cons.2 ⟨known, formed⟩⟩
  | name read other => exact ⟨allOver_nil, List.forall_mem_cons.2 ⟨⟨known, other⟩, formed⟩⟩
  | nameEnd => exact ⟨allOver_cons.2 ⟨forall_collected formed, allOver_nil⟩, trivial⟩
  | number read continues => exact ⟨allOver_nil, List.forall_mem_cons.2 ⟨continues, formed⟩⟩
  | word read continues =>
      exact ⟨allOver_nil,
        List.forall_mem_cons.2 ⟨⟨known, ne_quote_of_continuesWord continues⟩, formed⟩⟩

theorem scan_over {mode : Mode} {text : List Char} {tokens : List Token}
    (formed : mode.Over char) (known : ∀ c ∈ text, char c)
    (scanned : scan mode text = .ok tokens) : AllOver char tokens := by
  induction text generalizing mode tokens with
  | nil => exact finish_over formed scanned
  | cons c rest ih =>
      obtain ⟨first, others⟩ := List.forall_mem_cons.1 known
      obtain ⟨⟨ended, next⟩, fed, scanned⟩ := Except.bind_eq_ok.1 scanned
      obtain ⟨later, behind, whole⟩ := Except.bind_eq_ok.1 scanned
      cases whole
      obtain ⟨now, goesOn⟩ := feed_over formed first fed
      exact allOver_append.2 ⟨now, ih goesOn others behind⟩

/-- The tokens of a text over some characters have the form. -/
theorem allOver_ofText {text : String} {tokens : List Token} (known : ∀ c ∈ text.toList, char c)
    (scanned : ofText text = .ok tokens) : AllOver char tokens :=
  scan_over (show Mode.between.Over char from trivial) known scanned

end Token

/-! ## Readers -/

namespace Parser

/-- With so many placeholders read before, the reader answers from tokens over such characters
nothing but what has the property together with the number of placeholders then. It leaves such
tokens behind, and it has counted the placeholders among those that it took. -/
def ReadsFrom (char : Char → Prop) {α : Type} (start : Nat) (reader : Reader α)
    (property : α → Nat → Prop) : Prop :=
  ∀ ⦃input : Input⦄ ⦃answer : α⦄ ⦃rest : Input⦄, Token.AllOver char input.tokens →
    input.placeholders = start → reader input = .ok (answer, rest) →
    property answer rest.placeholders ∧ Token.AllOver char rest.tokens ∧
      rest.placeholders + rest.tokens.count .placeholder =
        input.placeholders + input.tokens.count .placeholder

/-- The reader takes no placeholders, and answers nothing but what has the property. -/
def Yields (char : Char → Prop) {α : Type} (reader : Reader α) (property : α → Prop) : Prop :=
  ∀ start, ReadsFrom char start reader fun answer finish => property answer ∧ finish = start

section Rules

variable {char : Char → Prop} {α β : Type} {start : Nat}

theorem readsFrom_pure {property : α → Nat → Prop} {answer : α} (holds : property answer start) :
    ReadsFrom char start (pure answer) property := by
  intro input other rest formed before read
  cases read
  exact ⟨before ▸ holds, formed, rfl⟩

theorem ReadsFrom.bind {first : Reader α} {next : α → Reader β} {middle : α → Nat → Prop}
    {property : β → Nat → Prop} (before : ReadsFrom char start first middle)
    (after : ∀ answer between, middle answer between →
      ReadsFrom char between (next answer) property) :
    ReadsFrom char start (first >>= next) property := by
  intro input answer rest formed counted read
  obtain ⟨⟨half, between⟩, one, two⟩ := Except.bind_eq_ok.1 read
  obtain ⟨known, kept, same⟩ := before formed counted one
  obtain ⟨holds, left, others⟩ := after half _ known kept rfl two
  exact ⟨holds, left, others.trans same⟩

theorem ReadsFrom.mono {reader : Reader α} {stronger weaker : α → Nat → Prop}
    (reads : ReadsFrom char start reader stronger)
    (implied : ∀ answer finish, stronger answer finish → weaker answer finish) :
    ReadsFrom char start reader weaker := by
  intro input answer rest formed counted read
  obtain ⟨holds, kept⟩ := reads formed counted read
  exact ⟨implied answer _ holds, kept⟩

theorem readsFrom_ite {reader other : Reader α} {property : α → Nat → Prop} {test : Prop}
    [Decidable test] (yes : ReadsFrom char start reader property)
    (no : ReadsFrom char start other property) :
    ReadsFrom char start (if test then reader else other) property := by
  split
  · exact yes
  · exact no

/-- A reader that only fails yields anything. -/
theorem readsFrom_of_fails {reader : Reader α} {property : α → Nat → Prop}
    (fails : ∀ input, ∃ failure, reader input = .error failure) :
    ReadsFrom char start reader property := by
  intro input answer rest _ _ read
  obtain ⟨failure, failed⟩ := fails input
  rw [failed] at read
  cases read

theorem readsFrom_unexpected {property : α → Nat → Prop} :
    ReadsFrom char start unexpected property := by
  apply readsFrom_of_fails
  intro input
  unfold unexpected
  split <;> exact ⟨_, rfl⟩

theorem readsFrom_reject {property : α → Nat → Prop} {token : Token} :
    ReadsFrom char start (reject token) property :=
  readsFrom_of_fails fun _ => ⟨_, rfl⟩

theorem readsFrom_throw {property : α → Nat → Prop} {failure : Failure} :
    ReadsFrom char start (throw failure) property :=
  readsFrom_of_fails fun _ => ⟨_, rfl⟩

/-- Taking the next token. Only its reader knows whether a placeholder is taken, so that reader
has to count it. -/
theorem readsFrom_next_bind {next : Token → Reader β} {property : β → Nat → Prop}
    (others : ∀ token, token ≠ .placeholder → token.Over char →
      ReadsFrom char start (next token) property)
    (hole : ∀ ⦃input answer rest⦄, input.placeholders = start →
      next .placeholder input = .ok (answer, rest) →
      property answer (start + 1) ∧ rest = { input with placeholders := start + 1 }) :
    ReadsFrom char start (Parser.next >>= next) property := by
  intro input answer rest formed counted read
  obtain ⟨⟨token, between⟩, taken, read⟩ := Except.bind_eq_ok.1 read
  unfold Parser.next at taken
  split at taken
  · cases taken
  · next first tokens front =>
      cases taken
      rw [front] at formed
      obtain ⟨known, remaining⟩ := Token.allOver_cons.1 formed
      have behind : next token { input with tokens } = .ok (answer, rest) := read
      have before : ({ input with tokens } : Input).placeholders = start := counted
      by_cases placeholder : token = .placeholder
      · subst placeholder
        obtain ⟨holds, rfl⟩ := hole before behind
        refine ⟨holds, remaining, ?_⟩
        rw [front, List.count_cons_self, counted]
        simp only
        omega
      · obtain ⟨holds, kept, same⟩ := others token placeholder known remaining before behind
        refine ⟨holds, kept, ?_⟩
        rw [same, front, List.count_cons_of_ne placeholder]

theorem yields_pure {property : α → Prop} {answer : α} (holds : property answer) :
    Yields char (pure answer) property :=
  fun _ => readsFrom_pure ⟨holds, rfl⟩

theorem Yields.readsFrom_bind {first : Reader α} {next : α → Reader β} {middle : α → Prop}
    {property : β → Nat → Prop} (before : Yields char first middle)
    (after : ∀ answer, middle answer → ReadsFrom char start (next answer) property) :
    ReadsFrom char start (first >>= next) property :=
  (before start).bind fun answer _ ⟨known, same⟩ => same ▸ after answer known

theorem Yields.bind {first : Reader α} {next : α → Reader β} {middle : α → Prop}
    {property : β → Prop} (before : Yields char first middle)
    (after : ∀ answer, middle answer → Yields char (next answer) property) :
    Yields char (first >>= next) property :=
  fun start => before.readsFrom_bind fun answer known => after answer known start

/-- A computation that reads nothing. -/
theorem yields_lift {attempt : Except Failure α} {property : α → Prop}
    (holds : ∀ answer, attempt = .ok answer → property answer) :
    Yields char (liftM attempt) property := by
  intro start input answer rest formed counted read
  cases attempt with
  | error failure => cases read
  | ok content =>
      cases read
      exact ⟨⟨holds _ rfl, counted⟩, formed, rfl⟩

end Rules

/-! ## Parts of statements -/

section Parts

variable {char : Char → Prop}

theorem yields_skipIf {test : Token → Bool} (other : test .placeholder = false) :
    Yields char (skipIf test) fun _ => True := by
  intro start input taken rest formed counted read
  unfold skipIf at read
  split at read
  · cases read
    exact ⟨⟨trivial, counted⟩, formed, rfl⟩
  · next first tokens front =>
      split at read
      · next passed =>
          cases read
          have apart : first ≠ .placeholder := fun same => by simp [same, other] at passed
          rw [front] at formed
          refine ⟨⟨trivial, counted⟩, (Token.allOver_cons.1 formed).2, ?_⟩
          rw [front, List.count_cons_of_ne apart]
      · cases read
        exact ⟨⟨trivial, counted⟩, formed, rfl⟩

theorem yields_skipKeyword (word : String) : Yields char (skipKeyword word) fun _ => True :=
  yields_skipIf rfl

theorem yields_skipSymbol (mark : Char) : Yields char (skipSymbol mark) fun _ => True :=
  yields_skipIf (by simp)

theorem yields_keyword (word : String) : Yields char (keyword word) fun _ => True :=
  (yields_skipKeyword word).bind fun _ _ _ =>
    readsFrom_ite readsFrom_unexpected (readsFrom_pure ⟨trivial, rfl⟩)

theorem yields_symbol (mark : Char) : Yields char (symbol mark) fun _ => True :=
  (yields_skipSymbol mark).bind fun _ _ _ =>
    readsFrom_ite readsFrom_unexpected (readsFrom_pure ⟨trivial, rfl⟩)

/-- What lower case makes of the characters of a name. -/
theorem nameOver_lowerCase (folds : ∀ c, char c → char (CharacterClass.lower c)) {name : String}
    (formed : ∀ c ∈ name.toList, char c ∧ c ≠ '"') :
    NameOver char (CharacterClass.lowerCase name) := by
  refine ⟨CharacterClass.lowerCase_lowerCase name, fun c member => ?_⟩
  rw [CharacterClass.lowerCase, String.toList_ofList] at member
  obtain ⟨original, inside, rfl⟩ := List.mem_map.1 member
  obtain ⟨known, other⟩ := formed original inside
  exact ⟨folds _ known, CharacterClass.lower_ne_quote other⟩

section Folding

variable (folds : ∀ c, char c → char (CharacterClass.lower c))

include folds

theorem over_identifierOf {tokens rest : List Token} {name : String}
    (formed : Token.AllOver char tokens) (read : identifierOf tokens = .ok (name, rest)) :
    NameOver char name ∧ Token.AllOver char rest ∧
      rest.count .placeholder = tokens.count .placeholder := by
  fun_induction identifierOf tokens with
  | case1 => cases read
  | case2 written lowered schema behind ih =>
      obtain ⟨_, others⟩ := Token.allOver_cons.1 formed
      obtain ⟨named, kept, same⟩ := ih (Token.allOver_cons.1 others).2 read
      exact ⟨named, kept, same.trans (by simp)⟩
  | case3 written lowered schema behind other =>
      simp only [Except.ok.injEq, Prod.mk.injEq] at read
      obtain ⟨rfl, rfl⟩ := read
      obtain ⟨first, others⟩ := Token.allOver_cons.1 formed
      exact ⟨nameOver_lowerCase folds first, others, by simp⟩
  | case4 behind written lowered other =>
      simp only [Except.ok.injEq, Prod.mk.injEq] at read
      obtain ⟨rfl, rfl⟩ := read
      obtain ⟨first, others⟩ := Token.allOver_cons.1 formed
      exact ⟨nameOver_lowerCase folds first, others, by simp⟩
  | case5 => cases read

theorem yields_identifier : Yields char identifier (NameOver char) := by
  intro start input name rest formed counted read
  obtain ⟨⟨found, behind⟩, taken, whole⟩ := Except.bind_eq_ok.1 read
  cases whole
  obtain ⟨named, kept, same⟩ := over_identifierOf folds formed taken
  exact ⟨⟨named, counted⟩, kept, by simp only [same]⟩

end Folding

/-- The reader answers nothing but what has the property, and numbers the placeholders among the
expressions of its answer. -/
def Reads (char : Char → Prop) {α : Type} (reader : Reader α) (expressions : α → List Expression)
    (property : α → Prop) : Prop :=
  ∀ start, ReadsFrom char start reader fun answer finish =>
    property answer ∧ Numbered start (expressions answer) finish

theorem Yields.reads {α : Type} {reader : Reader α} {property : α → Prop}
    (yields : Yields char reader property) : Reads char reader (fun _ => []) property :=
  fun start => (yields start).mono fun _ _ ⟨holds, same⟩ => ⟨holds, same ▸ .nil start⟩

theorem Reads.yields {α : Type} {reader : Reader α} {expressions : α → List Expression}
    {property : α → Prop} (reads : Reads char reader expressions property)
    (none_ : ∀ answer, expressions answer = []) : Yields char reader property :=
  fun start => (reads start).mono fun answer finish ⟨holds, numbered⟩ => by
    rw [none_ answer] at numbered
    cases numbered
    exact ⟨holds, rfl⟩

section Lists

variable {α : Type} {item : Reader α} {expressions : α → List Expression} {property : α → Prop}

theorem reads_separatedUpTo (each : Reads char item expressions property) (limit : Nat) :
    Reads char (separatedUpTo item limit) (fun items => items.flatMap expressions)
      (SomeAll property) := by
  induction limit with
  | zero =>
      intro start
      refine (each start).bind fun answer finish ⟨holds, numbered⟩ => readsFrom_pure ?_
      simpa [SomeAll] using And.intro holds numbered
  | succ limit ih =>
      intro start
      refine (each start).bind fun first between ⟨holds, numbered⟩ =>
        (yields_skipSymbol ',').readsFrom_bind fun _ _ => readsFrom_ite ?_ (readsFrom_pure ?_)
      · refine (ih between).bind fun others finish ⟨behind, later⟩ => readsFrom_pure ⟨?_, ?_⟩
        · exact ⟨by simp, List.forall_mem_cons.2 ⟨holds, behind.2⟩⟩
        · exact numbered.append later
      · simpa [SomeAll] using And.intro holds numbered

theorem reads_separated (each : Reads char item expressions property) :
    Reads char (separated item) (fun items => items.flatMap expressions) (SomeAll property) :=
  fun start _ _ _ formed counted read => reads_separatedUpTo each _ start formed counted read

theorem reads_parenthesized (each : Reads char item expressions property) :
    Reads char (parenthesized item) (fun items => items.flatMap expressions) (SomeAll property) :=
  fun start => (yields_symbol '(').readsFrom_bind fun _ _ => (reads_separated each start).bind
    fun _ _ both => (yields_symbol ')').readsFrom_bind fun _ _ => readsFrom_pure both

theorem yields_separated (each : Yields char item property) :
    Yields char (separated item) (SomeAll property) :=
  (reads_separated each.reads).yields fun items => by simp

theorem yields_parenthesized (each : Yields char item property) :
    Yields char (parenthesized item) (SomeAll property) :=
  (reads_parenthesized each.reads).yields fun items => by simp

end Lists

/-- Taking the next token where a placeholder is refused. -/
theorem Yields.of_next {α : Type} {next : Token → Reader α} {property : α → Prop}
    (others : ∀ token, token.Over char → Yields char (next token) property)
    (refused : ∀ input, ∃ failure, next .placeholder input = .error failure) :
    Yields char (Parser.next >>= next) property := by
  intro start
  refine readsFrom_next_bind (fun token _ formed => others token formed start) ?_
  intro input answer rest _ read
  obtain ⟨failure, failed⟩ := refused input
  rw [failed] at read
  cases read

theorem yields_typeArgument : Yields char typeArgument fun n => n < 4294967296 := by
  refine .of_next (fun token _ => ?_) fun _ => ⟨_, rfl⟩
  split
  · split
    · next found =>
        obtain ⟨_, small⟩ := Option.filter_eq_some_iff.1 found
        exact yields_pure (of_decide_eq_true small)
    · exact fun _ => readsFrom_throw
  · exact fun _ => readsFrom_reject

theorem yields_typeArguments : Yields char typeArguments fun arguments =>
    ∀ n ∈ arguments, n < 4294967296 :=
  (yields_skipSymbol '(').bind fun _ _ start => readsFrom_ite
    ((yields_separated yields_typeArgument).bind (fun _ each =>
      (yields_symbol ')').bind fun _ _ => yields_pure each.2) start)
    (yields_pure (by simp) start)

theorem yields_columnDeclaration (folds : ∀ c, char c → char (CharacterClass.lower c)) :
    Yields char columnDeclaration (ColumnDeclaration.Over char) :=
  (yields_identifier folds).bind fun _ named => (yields_identifier folds).bind fun typeName _ =>
    yields_typeArguments.bind fun arguments small =>
      Yields.bind (yields_lift fun _ declared => ⟨typeName, arguments, small, declared⟩)
        fun _ typed => yields_pure ⟨named, typed⟩

theorem yields_literalText : Yields char literalText fun _ => True := by
  refine .of_next (fun token _ => ?_) fun _ => ⟨_, rfl⟩
  split
  · exact yields_pure trivial
  · exact fun _ => readsFrom_reject

/-! ## Expressions -/

/-- What a number token stands for is a literal. -/
theorem literal_of_numberValue {written : List Char} {value : Value}
    (formed : ∀ c ∈ written, Token.continuesNumber c = true) (negative : Bool)
    (read : numberValue (Digits.signed negative written) = .ok value) :
    value.LiteralOver char := by
  have noMark : ∀ c ∈ Digits.signed negative written,
      (decide (c = 'e') || decide (c = 'E')) = false := by
    have plain {c : Char} (continues : Token.continuesNumber c = true) :
        (decide (c = 'e') || decide (c = 'E')) = false := by
      simp only [Bool.or_eq_false_iff, decide_eq_false_iff_not]
      constructor <;> rintro rfl <;> revert continues <;> decide
    intro c member
    cases negative with
    | true =>
        rcases List.mem_cons.1 member with rfl | member
        · decide
        · exact plain (formed c member)
    | false => exact plain (formed c member)
  unfold numberValue at read
  split at read
  · split at read
    · next decimal =>
        cases read
        exact Decimal.scale_of_parseChars? noMark decimal
    · cases read
  · split at read
    · cases read
    · next wide _ =>
        split at read
        · cases read
          trivial
        · next number none_ some_ =>
            cases read
            have same := IntegerKind.ofInt?_eq_some.1 some_
            show IntegerKind.int64.ofInt? number.val = none
            rw [same, none_]
        · cases read

theorem yields_wordValue (name : String) :
    Yields char (wordValue name) (Value.LiteralOver char) := by
  unfold wordValue
  split
  · exact yields_pure trivial
  · exact yields_pure trivial
  · exact yields_pure trivial
  · exact yields_literalText.bind fun _ _ =>
      (yields_lift fun _ _ => trivial).bind fun _ _ => yields_pure trivial
  · exact yields_literalText.bind fun _ _ =>
      (yields_lift fun _ _ => trivial).bind fun _ _ => yields_pure trivial
  · exact yields_literalText.bind fun _ _ =>
      (yields_lift fun _ _ => trivial).bind fun _ _ => yields_pure trivial
  · exact fun _ => readsFrom_throw

/-- An expression that is a literal takes no number. -/
theorem numbered_literal (value : Value) (start : Nat) :
    Numbered start [.literal value] start :=
  .literal value (.nil start)

theorem reads_expression :
    Reads char expression (fun expression => [expression]) (Expression.Over char) := by
  intro start
  refine (yields_skipSymbol '-').readsFrom_bind fun negative _ =>
    readsFrom_next_bind (fun token apart formed => ?_) ?_
  · cases token with
    | number written =>
        exact (yields_lift fun _ read => literal_of_numberValue formed negative read).readsFrom_bind
          fun value literal => readsFrom_pure ⟨literal, numbered_literal value start⟩
    | placeholder => exact absurd rfl apart
    | text content =>
        exact readsFrom_ite readsFrom_reject (readsFrom_pure ⟨formed, numbered_literal _ start⟩)
    | word name =>
        exact readsFrom_ite readsFrom_reject ((yields_wordValue name).readsFrom_bind
          fun value literal => readsFrom_pure ⟨literal, numbered_literal value start⟩)
    | symbol character => exact readsFrom_reject
  · intro input answer rest counted read
    cases negative with
    | true => cases read
    | false =>
        cases read
        subst counted
        exact ⟨⟨trivial, .placeholder (.nil _)⟩, rfl⟩

/-! ## Statements -/

section Folding

variable (folds : ∀ c, char c → char (CharacterClass.lower c))

include folds

theorem reads_filter : Reads char filter (fun filter => (filter.map (·.value)).toList)
    fun condition => ∀ found ∈ condition, found.Over char := by
  intro start
  refine (yields_skipKeyword "where").readsFrom_bind fun _ _ => readsFrom_ite ?_
    (readsFrom_pure ⟨by simp, .nil start⟩)
  refine (yields_identifier folds).readsFrom_bind fun _ named =>
    (yields_symbol '=').readsFrom_bind fun _ _ =>
      (reads_expression start).bind fun _ _ ⟨valued, numbered⟩ => readsFrom_pure ⟨?_, numbered⟩
  simpa using Filter.Over.mk named valued

theorem reads_assignment : Reads char assignment (fun change => [change.value])
    (Assignment.Over char) :=
  fun start => (yields_identifier folds).readsFrom_bind fun _ named =>
    (yields_symbol '=').readsFrom_bind fun _ _ =>
      (reads_expression start).bind fun _ _ ⟨valued, numbered⟩ =>
        readsFrom_pure ⟨⟨named, valued⟩, numbered⟩

theorem reads_createTable :
    Reads char createTable Statement.expressions (Statement.Over char) :=
  fun start => (yields_identifier folds).readsFrom_bind fun _ named =>
    (yields_parenthesized (yields_columnDeclaration folds)).readsFrom_bind fun _ columns =>
      readsFrom_pure ⟨⟨named, columns⟩, .nil start⟩

theorem yields_columnList : Yields char columnList fun columns =>
    ∀ names ∈ columns, SomeAll (NameOver char) names :=
  (yields_skipSymbol '(').bind fun _ _ start => readsFrom_ite
    ((yields_separated (yields_identifier folds)).bind (fun _ names =>
      (yields_symbol ')').bind fun _ _ => yields_pure (by simpa using names)) start)
    (yields_pure (by simp) start)

theorem reads_insert : Reads char insert Statement.expressions (Statement.Over char) := by
  intro start
  refine (yields_identifier folds).readsFrom_bind fun _ named =>
    (yields_columnList folds).readsFrom_bind fun _ columns =>
      (yields_keyword "values").readsFrom_bind fun _ _ =>
        (reads_separated (reads_parenthesized reads_expression) start).bind
          fun rows _ ⟨formed, numbered⟩ => readsFrom_pure ⟨⟨named, columns, formed⟩, ?_⟩
  simp only [List.flatMap_singleton', List.flatMap_id'] at numbered
  exact numbered

theorem yields_projection : Yields char projection fun columns =>
    ∀ names ∈ columns, SomeAll (NameOver char) names :=
  (yields_skipSymbol '*').bind fun _ _ start => readsFrom_ite (yields_pure (by simp) start)
    ((yields_separated (yields_identifier folds)).bind (fun _ names =>
      yields_pure (by simpa using names)) start)

theorem reads_select : Reads char select Statement.expressions (Statement.Over char) :=
  fun start => (yields_projection folds).readsFrom_bind fun _ columns =>
    (yields_keyword "from").readsFrom_bind fun _ _ =>
      (yields_identifier folds).readsFrom_bind fun _ named =>
        (reads_filter folds start).bind fun _ _ ⟨condition, numbered⟩ =>
          readsFrom_pure ⟨⟨named, columns, condition⟩, numbered⟩

theorem reads_update : Reads char update Statement.expressions (Statement.Over char) := by
  intro start
  refine (yields_identifier folds).readsFrom_bind fun _ named =>
    (yields_keyword "set").readsFrom_bind fun _ _ =>
      (reads_separated (reads_assignment folds) start).bind
        fun changes between ⟨assigned, first⟩ => (reads_filter folds between).bind
          fun _ _ ⟨condition, second⟩ => readsFrom_pure ⟨⟨named, assigned, condition⟩, ?_⟩
  simp only [← List.map_eq_flatMap] at first
  exact first.append second

theorem reads_delete : Reads char delete Statement.expressions (Statement.Over char) :=
  fun start => (yields_identifier folds).readsFrom_bind fun _ named =>
    (reads_filter folds start).bind fun _ _ ⟨condition, numbered⟩ =>
      readsFrom_pure ⟨⟨named, condition⟩, numbered⟩

theorem reads_dropTable : Reads char (do return Statement.dropTable (← identifier))
    Statement.expressions (Statement.Over char) :=
  fun start => (yields_identifier folds).readsFrom_bind fun _ named =>
    readsFrom_pure ⟨named, .nil start⟩

theorem reads_statement : Reads char statement Statement.expressions (Statement.Over char) :=
  fun start =>
  (yields_skipKeyword "create").readsFrom_bind fun _ _ => readsFrom_ite
    ((yields_keyword "table").readsFrom_bind fun _ _ => reads_createTable folds start) <|
  (yields_skipKeyword "drop").readsFrom_bind fun _ _ => readsFrom_ite
    ((yields_keyword "table").readsFrom_bind fun _ _ => reads_dropTable folds start) <|
  (yields_skipKeyword "insert").readsFrom_bind fun _ _ => readsFrom_ite
    ((yields_keyword "into").readsFrom_bind fun _ _ => reads_insert folds start) <|
  (yields_skipKeyword "select").readsFrom_bind fun _ _ => readsFrom_ite
    (reads_select folds start) <|
  (yields_skipKeyword "update").readsFrom_bind fun _ _ => readsFrom_ite
    (reads_update folds start) <|
  (yields_skipKeyword "delete").readsFrom_bind fun _ _ => readsFrom_ite
    ((yields_keyword "from").readsFrom_bind fun _ _ => reads_delete folds start)
    readsFrom_unexpected

/-- A whole statement leaves no token, so that all placeholders among the tokens are counted. -/
theorem over_of_whole {tokens : List Token} {statement : Statement} {rest : Input}
    (formed : Token.AllOver char tokens) (read : whole ⟨tokens, 0⟩ = .ok (statement, rest)) :
    statement.Over char ∧ Numbered 0 statement.expressions (tokens.count .placeholder) := by
  obtain ⟨⟨found, behind⟩, one, read⟩ := Except.bind_eq_ok.1 read
  obtain ⟨⟨whole, numbered⟩, kept, counted⟩ := reads_statement folds 0 formed rfl one
  obtain ⟨⟨taken, last⟩, two, read⟩ := Except.bind_eq_ok.1 read
  obtain ⟨⟨_, same⟩, _, remaining⟩ := yields_skipSymbol ';' _ kept rfl two
  obtain ⟨_ | ⟨token, others⟩, count⟩ := last
  · cases read
    refine ⟨whole, ?_⟩
    have total : count = tokens.count .placeholder := by
      simp only [List.count_nil] at remaining counted
      omega
    rw [← total, show count = behind.placeholders from same]
    exact numbered
  · cases read

end Folding

end Parts

end Parser

namespace Statement

variable {text : String} {statement : Statement}

/-- **A statement that is read has the form of one**, over the characters of its text. -/
theorem over_of_parse {char : Char → Prop} (folds : ∀ c, char c → char (CharacterClass.lower c))
    (known : ∀ c ∈ text.toList, char c) (read : Statement.parse text = .ok statement) :
    statement.Over char := by
  obtain ⟨tokens, scanned, read⟩ := Except.bind_eq_ok.1 read
  obtain ⟨⟨found, rest⟩, parsed, whole⟩ := Except.bind_eq_ok.1 read
  cases whole
  exact (Parser.over_of_whole folds (Token.allOver_ofText known scanned) parsed).1

/-- **The placeholders of a statement that is read are numbered from left to right**, one for
each placeholder token of its text. -/
theorem numbered_of_parse (read : Statement.parse text = .ok statement) :
    ∃ tokens, Token.ofText text = .ok tokens ∧
      Numbered 0 statement.expressions (tokens.count .placeholder) := by
  obtain ⟨tokens, scanned, read⟩ := Except.bind_eq_ok.1 read
  obtain ⟨⟨found, rest⟩, parsed, whole⟩ := Except.bind_eq_ok.1 read
  cases whole
  have formed : Token.AllOver (fun _ => True) tokens :=
    Token.allOver_ofText (fun _ _ => trivial) scanned
  exact ⟨tokens, scanned, (Parser.over_of_whole (fun _ _ => trivial) formed parsed).2⟩

end Statement

/-! ## Well-formed statements -/

/-- A literal is well-formed; nothing is known of a placeholder. -/
def Expression.WellFormed : Expression → Prop
  | literal value => value.WellFormed
  | placeholder _ => True

/-- The name of a column has no NUL. -/
def ColumnDeclaration.Named (column : ColumnDeclaration) : Prop :=
  NulFree column.name.toList

/-- The literals of a statement are well-formed. A table that is created has a column, and
neither its name nor those of its columns have a NUL. -/
def Statement.WellFormed : Statement → Prop
  | createTable table columns =>
      NulFree table.toList ∧ columns ≠ [] ∧ ∀ column ∈ columns, column.Named
  | statement => ∀ expression ∈ statement.expressions, expression.WellFormed

/-- Not being NUL. -/
abbrev Present (c : Char) : Prop :=
  c.toNat ≠ 0

theorem NameOver.nulFree {name : String} (formed : NameOver Present name) :
    NulFree name.toList :=
  fun c member => (formed.2 c member).1

theorem Value.LiteralOver.wellFormed {value : Value} (formed : value.LiteralOver Present) :
    value.WellFormed := by
  cases value with
  | str text => exact formed
  | float number => exact formed.elim
  | double number => exact formed.elim
  | _ => trivial

theorem Expression.Over.wellFormed {expression : Expression} (formed : expression.Over Present) :
    expression.WellFormed := by
  cases expression with
  | literal value => exact Value.LiteralOver.wellFormed formed
  | placeholder index => trivial

namespace Statement

theorem wellFormed_of_filter {filter : Option Filter}
    (formed : ∀ condition ∈ filter, condition.Over Present) :
    ∀ expression ∈ (filter.map (·.value)).toList, expression.WellFormed := by
  intro expression member
  simp only [Option.mem_toList, Option.map_eq_some_iff] at member
  obtain ⟨condition, some_, rfl⟩ := member
  exact (formed condition some_).valued.wellFormed

theorem Over.wellFormed {statement : Statement} (formed : statement.Over Present) :
    statement.WellFormed := by
  cases statement with
  | createTable table columns =>
      exact ⟨formed.1.nulFree, formed.2.1, fun column member =>
        (formed.2.2 column member).named.nulFree⟩
  | dropTable table =>
      intro expression member
      cases member
  | insert table columns rows =>
      intro expression member
      obtain ⟨row, inside, among⟩ := List.mem_flatten.1 member
      exact ((formed.2.2.2 row inside).2 expression among).wellFormed
  | select table projection filter => exact wellFormed_of_filter formed.2.2
  | update table assignments filter =>
      intro expression member
      rcases List.mem_append.1 member with member | member
      · obtain ⟨change, inside, rfl⟩ := List.mem_map.1 member
        exact (formed.2.1.2 change inside).valued.wellFormed
      · exact wellFormed_of_filter formed.2.2 expression member
  | delete table filter => exact wellFormed_of_filter formed.2

/-- **A statement read from a text without NUL is well-formed.** -/
theorem wellFormed_of_parse {text : String} {statement : Statement}
    (free : NulFree text.toList) (read : Statement.parse text = .ok statement) :
    statement.WellFormed := by
  have formed : statement.Over Present :=
    over_of_parse (fun _ => CharacterClass.toNat_lower_ne_zero) free read
  exact formed.wellFormed

end Statement

end ColumnStore
