import ColumnStore.Proofs.Sql.Spelling

/-!
# Data in the texts of statements

Data is put into the text of a statement between single quotes, with each single quote in it
written twice (`Token.quoted`). Whatever its characters are, it is scanned as the one token that
holds it: it does not end early, and it does not take in what follows. Set off by white space it
stands between the tokens of the texts around it, and these have the tokens that they have alone.

Main result: `Token.quoted_set_off`.
-/

set_option autoImplicit false

namespace ColumnStore.Token

open CharacterClass (isBlank)

/-- Data between single quotes, with each single quote in it written twice. -/
def quoted (content : String) : String :=
  String.ofList ('\'' :: Lexeme.doubled content.toList ++ ['\''])

theorem ofText_quoted (content : String) : ofText (quoted content) = .ok [.text content] := by
  rw [ofText, quoted, String.toList_ofList, Lexeme.scan_text]

/-- **White space sets texts apart, and quoted data is one token**: the tokens of two texts with
white space between them are those of the first and those of the second, data of any kind between
quotes is a single token, and so it stays between two texts that it is set off from. -/
theorem quoted_set_off :
    (∀ (first second : String) (blank : Char) (tokens more : List Token), isBlank blank = true →
        ofText first = .ok tokens → ofText second = .ok more →
          ofText (first ++ blank.toString ++ second) = .ok (tokens ++ more)) ∧
      (∀ content : String, ofText (quoted content) = .ok [.text content]) ∧
      ∀ (first content second : String) (before behind : Char) (tokens more : List Token),
        isBlank before = true → isBlank behind = true →
          ofText first = .ok tokens → ofText second = .ok more →
            ofText (first ++ before.toString ++ quoted content ++ behind.toString ++ second) =
              .ok (tokens ++ .text content :: more) := by
  refine ⟨fun first second blank tokens more => ofText_append_blank, ofText_quoted, ?_⟩
  intro first content second before behind tokens more front back one other
  have start := ofText_append_blank front one (ofText_quoted content)
  rw [ofText_append_blank back start other, List.append_assoc]
  rfl

/-- Data that looks like the end of a literal and more of a statement stays one token. -/
theorem quoted_set_off_injection :
    ofText "a = " = .ok [.word "a", .symbol '='] ∧ ofText "OR" = .ok [.word "OR"] ∧
      ofText ("a = " ++ '\t'.toString ++ quoted "' OR ''='" ++ '\u2003'.toString ++ "OR") =
        .ok [.word "a", .symbol '=', .text "' OR ''='", .word "OR"] := by
  have one : ofText "a = " = .ok [.word "a", .symbol '='] := by decide
  have other : ofText "OR" = .ok [.word "OR"] := by decide
  exact ⟨one, other, quoted_set_off.2.2 _ _ _ _ _ _ _ (by decide) (by decide) one other⟩

end ColumnStore.Token
