import ColumnStore.Proofs.Sql.Acceptance

/-!
# The grammar of statements

The statements of the grammar are those of the right form whose placeholders are numbered from
left to right. The parser reads each of them from its canonical text, and it reads nothing but
statements of the grammar, so that what was read from any text is read again from the canonical
one.

Main result: `Statement.parse_roundTrip`.
-/

set_option autoImplicit false

namespace ColumnStore

namespace Statement

/-- A statement of the grammar: lists have an element, names are in lower case and have no
double quote, types can be declared, literals are of the kinds that can be written, and the
placeholders are numbered from left to right. -/
structure InGrammar (statement : Statement) : Prop where
  formed : statement.Over AnyChar
  inOrder : statement.placeholders = List.range statement.placeholders.length

theorem InGrammar.numbered {statement : Statement} (grammar : statement.InGrammar) :
    Numbered 0 statement.expressions statement.placeholders.length := by
  have holes : Expression.holes statement.expressions =
      List.range' 0 statement.placeholders.length := by
    rw [← placeholders_eq, ← List.range_eq_range']
    exact grammar.inOrder
  simpa using numbered_iff.2 holes

/-- A statement of the grammar is read from its canonical text. -/
theorem InGrammar.parse_canonicalText {statement : Statement} (grammar : statement.InGrammar) :
    parse statement.canonicalText = .ok statement := by
  have scanned : Token.ofText statement.canonicalText =
      .ok (Lexeme.allTokens statement.lexemes) :=
    Lexeme.ofText_spell (allSpelled_lexemes grammar.formed)
  have read : Parser.statement ⟨Lexeme.allTokens statement.lexemes, 0⟩ =
      .ok (statement, ⟨[], statement.placeholders.length⟩) := by
    simpa using Parser.takes_statement grammar.formed grammar.numbered [] (Parser.apart_end _)
  rw [parse, scanned]
  show (Parser.whole _ >>= _) = _
  rw [Parser.whole, Parser.bind_of_ok read]
  rfl

/-- What is read is a statement of the grammar, with a placeholder for each token of one. -/
theorem inGrammar_of_parse {text : String} {statement : Statement}
    (read : parse text = .ok statement) : statement.InGrammar ∧
      ∃ tokens, Token.ofText text = .ok tokens ∧
        statement.placeholders.length = tokens.count .placeholder := by
  obtain ⟨tokens, scanned, numbered⟩ := numbered_of_parse read
  have holes : statement.placeholders = List.range (tokens.count .placeholder) := by
    rw [placeholders_eq, numbered.holes_eq, Nat.sub_zero, List.range_eq_range']
  have length : statement.placeholders.length = tokens.count .placeholder := by
    rw [holes, List.length_range]
  refine ⟨⟨over_of_parse (fun _ _ => trivial) (fun _ _ => trivial) read, ?_⟩,
    tokens, scanned, length⟩
  rw [length, holes]

/-- **The parser reads just the statements of the grammar.** Each of them is read from its
canonical text; and whatever is read from a text is a statement of the grammar, has as many
placeholders as the text has tokens of them, and is read from its canonical text again. -/
theorem parse_roundTrip :
    (∀ statement : Statement, statement.InGrammar →
      parse statement.canonicalText = .ok statement) ∧
    ∀ (text : String) (statement : Statement), parse text = .ok statement →
      statement.InGrammar ∧
      (∃ tokens, Token.ofText text = .ok tokens ∧
        statement.placeholders.length = tokens.count .placeholder) ∧
      parse statement.canonicalText = .ok statement := by
  refine ⟨fun statement grammar => grammar.parse_canonicalText, fun text statement read => ?_⟩
  obtain ⟨grammar, counted⟩ := inGrammar_of_parse read
  exact ⟨grammar, counted, grammar.parse_canonicalText⟩

/-- An update that is not written in the canonical way. -/
theorem parse_roundTrip_update :
    let changed : Statement := .update "t"
      [⟨"a", .placeholder 0⟩, ⟨"b", .literal (.str "it's")⟩]
      (some ⟨"c", .literal (.decimal ⟨-50, 2⟩)⟩)
    let text := "update T set a=?, \"b\" = 'it''s' where sys.c=-0.50;"
    changed.InGrammar ∧ parse changed.canonicalText = .ok changed ∧ parse text = .ok changed ∧
      ∃ tokens, Token.ofText text = .ok tokens ∧
        changed.placeholders.length = tokens.count .placeholder := by
  intro changed text
  have named {name : String} (lower : CharacterClass.lowerCase name = name)
      (plain : '"' ∉ name.toList) : NameOver AnyChar name :=
    ⟨lower, fun c member => ⟨trivial, fun quote => plain (quote ▸ member)⟩⟩
  have assigned : SomeAll (Assignment.Over AnyChar)
      [⟨"a", .placeholder 0⟩, ⟨"b", .literal (.str "it's")⟩] := by
    refine ⟨by simp, List.forall_mem_cons.2 ⟨⟨named (by decide) (by decide), trivial⟩, ?_⟩⟩
    exact List.forall_mem_singleton.2 ⟨named (by decide) (by decide), fun _ _ => trivial⟩
  have condition : Filter.Over AnyChar ⟨"c", .literal (.decimal ⟨-50, 2⟩)⟩ := by
    refine ⟨named (by decide) (by decide), ?_⟩
    show (0 : Int) ≤ 2 ∧ (2 : Int) ≤ IntegerKind.int64.maximum
    decide
  have grammar : changed.InGrammar :=
    ⟨⟨named (by decide) (by decide), assigned, fun _ member => Option.some.inj member ▸ condition⟩,
      rfl⟩
  have read : parse text = .ok changed := by decide +kernel
  exact ⟨grammar, parse_roundTrip.1 changed grammar, read,
    (parse_roundTrip.2 text changed read).2.1⟩

end Statement

end ColumnStore
