import ColumnStore.Proofs.Sql.Spelling

/-!
# Letter case in statements

Outside text literals the case of ASCII letters does not matter. Two texts that differ in nothing
else (`Statement.SameButCase`) are both refused, or are the same statement.

Case is folded in several places: where keywords are recognised, in identifiers, in the words
that stand for values or open literals, and in the names of types. What the readers share is a
relation between tokens, words with the same letters up to case and otherwise equal tokens
(`Token.Similar`). The scanner reaches similar tokens from texts that differ in case alone, one
character after the other; every reader answers the same from similar tokens and leaves similar
ones behind (`Parser.Blind`), or fails on both.

Main result: `Statement.parse_alike_of_sameButCase`.
-/

set_option autoImplicit false

namespace ColumnStore

/-! ## Letters -/

namespace CharacterClass

/-- Characters with the same lower case are the same or are two letters. -/
theorem eq_or_isAlpha_of_lower_eq {c d : Char} (same : lower c = lower d) :
    c = d ∨ c.isAlpha = true ∧ d.isAlpha = true := by
  have numbers : 'A'.toNat = 65 ∧ 'Z'.toNat = 90 := by decide
  have bounds {e : Char} (capital : 'A' ≤ e ∧ e ≤ 'Z') : 65 ≤ e.toNat ∧ e.toNat ≤ 90 :=
    ⟨numbers.1 ▸ capital.1, numbers.2 ▸ capital.2⟩
  have small {e f : Char} (capital : 'A' ≤ e ∧ e ≤ 'Z') (folded : lower e = f) :
      e.isAlpha = true ∧ f.isAlpha = true := by
    have number := toNat_lower capital
    have range := bounds capital
    rw [folded] at number
    exact ⟨isAlpha_iff.2 (.inl range), isAlpha_iff.2 (.inr (by omega))⟩
  by_cases first : 'A' ≤ c ∧ c ≤ 'Z' <;> by_cases second : 'A' ≤ d ∧ d ≤ 'Z'
  · exact .inr ⟨isAlpha_iff.2 (.inl (bounds first)), isAlpha_iff.2 (.inl (bounds second))⟩
  · exact .inr (small first (same.trans (if_neg second)))
  · exact .inr (small second (same.symm.trans (if_neg first))).symm
  · exact .inl ((if_neg first).symm.trans (same.trans (if_neg second)))

end CharacterClass

/-! ## Texts that differ in case alone -/

namespace Statement

/-- Where in the text of a statement a character stands. -/
inductive Region
  | outside
  | inName
  | inText
  deriving DecidableEq, Repr

/-- Where the next character stands. Single quotes bound text literals and double quotes bound
names; inside of one, the other kind has no meaning. -/
def Region.after : Region → Char → Region
  | .outside, c => if c = '\'' then .inText else if c = '"' then .inName else .outside
  | .inName, c => if c = '"' then .outside else .inName
  | .inText, c => if c = '\'' then .outside else .inText

/-- From this region on, the two texts have the same characters up to the case of the letters
that are not in a text literal. -/
inductive SameFrom : Region → List Char → List Char → Prop
  | nil (region : Region) : SameFrom region [] []
  | cons {region : Region} {c d : Char} {left right : List Char}
      (same : c = d ∨ region ≠ .inText ∧ CharacterClass.lower c = CharacterClass.lower d)
      (others : SameFrom (region.after c) left right) : SameFrom region (c :: left) (d :: right)

/-- The two texts differ at most in the case of ASCII letters outside text literals. -/
def SameButCase (left right : String) : Prop :=
  SameFrom .outside left.toList right.toList

theorem sameFrom_cons {region : Region} {c d : Char} {left right : List Char} :
    SameFrom region (c :: left) (d :: right) ↔
      (c = d ∨ region ≠ .inText ∧ CharacterClass.lower c = CharacterClass.lower d) ∧
        SameFrom (region.after c) left right :=
  ⟨fun | .cons same others => ⟨same, others⟩, fun both => .cons both.1 both.2⟩

instance decidableSameFrom :
    (region : Region) → (left right : List Char) → Decidable (SameFrom region left right)
  | region, [], [] => .isTrue (.nil region)
  | _, [], _ :: _ => .isFalse nofun
  | _, _ :: _, [] => .isFalse nofun
  | region, c :: left, _ :: right =>
      have := decidableSameFrom (region.after c) left right
      decidable_of_iff _ sameFrom_cons.symm

instance (left right : String) : Decidable (SameButCase left right) :=
  inferInstanceAs (Decidable (SameFrom _ _ _))

end Statement

/-! ## Similar tokens -/

namespace Token

open CharacterClass Statement
open Lexeme (feed_first_letter feed_letter isLetter_of_isAlpha)

/-- The same token up to the case of the letters of a word. -/
inductive Similar : Token → Token → Prop
  | refl (token : Token) : Similar token token
  | word {name other : String} (same : lowerCase name = lowerCase other) :
      Similar (.word name) (.word other)

/-- The same is known of the token that is read, up to the case of the letters of a word. -/
inductive Mode.Similar : Mode → Mode → Prop
  | between : Similar .between .between
  | inText (read : List Char) : Similar (.inText read) (.inText read)
  | afterQuote (read : List Char) : Similar (.afterQuote read) (.afterQuote read)
  | inName {read other : List Char} (same : read.map lower = other.map lower) :
      Similar (.inName read) (.inName other)
  | inNumber (read : List Char) : Similar (.inNumber read) (.inNumber read)
  | inWord {read other : List Char} (same : read.map lower = other.map lower) :
      Similar (.inWord read) (.inWord other)

theorem Mode.Similar.refl (mode : Mode) : mode.Similar mode := by
  cases mode with
  | between => exact .between
  | inText read => exact .inText read
  | afterQuote read => exact .afterQuote read
  | inName => exact .inName rfl
  | inNumber read => exact .inNumber read
  | inWord => exact .inWord rfl

/-- Where the next character stands when so much is known of the token. -/
def Mode.region : Mode → Region
  | .inText _ => .inText
  | .inName _ => .inName
  | _ => .outside

/-- Tokens that have been read, and what is known behind them. -/
def SimilarStep (left right : List Token × Mode) : Prop :=
  List.Forall₂ Similar left.1 right.1 ∧ left.2.Similar right.2

theorem similar_word_collected {read other : List Char} (same : read.map lower = other.map lower) :
    Similar (.word (collected read)) (.word (collected other)) :=
  .word (by simp only [lowerCase, collected, String.toList_ofList, List.map_reverse, same])

theorem continuesNumber_of_isAlpha {c : Char} (letter : c.isAlpha = true) :
    continuesNumber c = false := by
  have bounds := CharacterClass.isAlpha_iff.1 letter
  have numbers : '9'.toNat = 57 ∧ '.'.toNat = 46 := by decide
  have digit : ¬ c ≤ '9' := fun below => by
    have : c.toNat ≤ '9'.toNat := below
    omega
  have point : c ≠ '.' := by
    rintro rfl
    omega
  simp [continuesNumber, Digits.isDigit, digit, point]

theorem continuesWord_of_isAlpha {c : Char} (letter : c.isAlpha = true) :
    continuesWord c = true := by
  simp [continuesWord, isLetter_of_isAlpha letter]

theorem eq_iff_of_lower_eq {c d : Char} (same : lower c = lower d) (mark : Char)
    (apart : mark.isAlpha = false) : c = mark ↔ d = mark := by
  have ne {e : Char} (letter : e.isAlpha = true) : e ≠ mark := by
    rintro rfl
    rw [letter] at apart
    cases apart
  rcases eq_or_isAlpha_of_lower_eq same with rfl | ⟨first, second⟩
  · rfl
  · exact iff_of_false (ne first) (ne second)

theorem continuesWord_eq_of_lower_eq {c d : Char} (same : lower c = lower d) :
    continuesWord c = continuesWord d := by
  rcases eq_or_isAlpha_of_lower_eq same with rfl | ⟨first, second⟩
  · rfl
  · rw [continuesWord_of_isAlpha first, continuesWord_of_isAlpha second]

/-! ## Scanning -/

theorem forall₂_similar (tokens : List Token) : List.Forall₂ Similar tokens tokens :=
  List.forall₂_same.2 fun token _ => .refl token

theorem similarStep_refl (step : List Token × Mode) : SimilarStep step step :=
  ⟨forall₂_similar _, .refl _⟩

/-- Outside literals similar characters start similar tokens. -/
theorem start_similar {c d : Char} (same : lower c = lower d) :
    Except.Parallel SimilarStep (start c) (start d) := by
  rcases eq_or_isAlpha_of_lower_eq same with rfl | ⟨first, second⟩
  · exact .refl similarStep_refl _
  · have started {e : Char} (letter : e.isAlpha = true) : start e = .ok ([], .inWord [e]) :=
      feed_first_letter letter
    rw [started first, started second]
    exact .ok ⟨.nil, .inWord (by simp [same])⟩

theorem endWith_similar {token other : Token} {c d : Char} (similar : Similar token other)
    (same : lower c = lower d) :
    Except.Parallel SimilarStep (endWith token c) (endWith other d) :=
  (start_similar same).bind fun _ _ _ ⟨tokens, next⟩ => .ok ⟨.cons similar tokens, next⟩

/-- In similar modes similar characters are read alike; in a text literal they have to be the
same. -/
theorem feed_similar {mode other : Mode} {c d : Char} (similar : mode.Similar other)
    (same : lower c = lower d) (literal : mode.region = .inText → c = d) :
    Except.Parallel SimilarStep (feed mode c) (feed other d) := by
  cases similar with
  | between => exact start_similar same
  | inText read =>
      cases literal rfl
      exact .refl similarStep_refl _
  | afterQuote read =>
      simp only [feed, eq_iff_of_lower_eq same '\'' rfl]
      split
      · exact .refl similarStep_refl _
      · exact endWith_similar (.refl _) same
  | inName read =>
      simp only [feed, eq_iff_of_lower_eq same '"' rfl]
      split
      · exact .ok ⟨.cons (similar_word_collected read) .nil, .between⟩
      · exact .ok ⟨.nil, .inName (by simp [same, read])⟩
  | inNumber read =>
      rcases eq_or_isAlpha_of_lower_eq same with rfl | ⟨first, second⟩
      · exact .refl similarStep_refl _
      · simp only [feed, continuesNumber_of_isAlpha first, continuesNumber_of_isAlpha second]
        exact endWith_similar (.refl _) same
  | inWord read =>
      simp only [feed, continuesWord_eq_of_lower_eq same]
      split
      · exact .ok ⟨.nil, .inWord (by simp [same, read])⟩
      · exact endWith_similar (similar_word_collected read) same

theorem finish_similar {mode other : Mode} (similar : mode.Similar other) :
    Except.Parallel (List.Forall₂ Similar) (finish mode) (finish other) := by
  cases similar with
  | between => exact .ok .nil
  | inText => exact .error _ _
  | afterQuote => exact .ok (.cons (.refl _) .nil)
  | inName => exact .error _ _
  | inNumber => exact .ok (.cons (.refl _) .nil)
  | inWord same => exact .ok (.cons (similar_word_collected same) .nil)

theorem region_of_start {mode : Mode} {c : Char} {tokens : List Token}
    (started : start c = .ok (tokens, mode)) : mode.region = Region.outside.after c := by
  unfold start at started
  split_ifs at started with blank quote name digit letter hole mark
  · have quote : c ≠ '\'' := by rintro rfl; revert blank; decide
    have name : c ≠ '"' := by rintro rfl; revert blank; decide
    cases started
    simp [Mode.region, Region.after, quote, name]
  all_goals
    cases started
    simp_all [Mode.region, Region.after]

theorem region_of_finish {mode : Mode} {tokens : List Token} (finished : finish mode = .ok tokens) :
    mode.region = .outside := by
  cases mode <;> cases finished <;> rfl

/-- The quotes that have been read say in which region the scanner is. -/
theorem region_of_feed {mode next : Mode} {c : Char} {tokens : List Token}
    (fed : feed mode c = .ok (tokens, next)) : next.region = mode.region.after c := by
  cases fed_of_feed fed with
  | ended finished starts => rw [region_of_finish finished, region_of_start starts]
  | text read other => simp [other, Mode.region, Region.after]
  | quote => rfl
  | secondQuote => rfl
  | name read other => simp [other, Mode.region, Region.after]
  | nameEnd => rfl
  | number read continues =>
      have quote : c ≠ '\'' := by rintro rfl; revert continues; decide
      have name : c ≠ '"' := by rintro rfl; revert continues; decide
      simp [quote, name, Mode.region, Region.after]
  | word read continues =>
      have quote : c ≠ '\'' := by rintro rfl; revert continues; decide
      have name : c ≠ '"' := ne_quote_of_continuesWord continues
      simp [quote, name, Mode.region, Region.after]

/-- From texts that differ in case alone similar tokens are scanned, or none from both. -/
theorem scan_similar {mode other : Mode} {left right : List Char} (similar : mode.Similar other)
    (same : SameFrom mode.region left right) :
    Except.Parallel (List.Forall₂ Similar) (scan mode left) (scan other right) := by
  induction left generalizing mode other right with
  | nil =>
      cases same
      exact finish_similar similar
  | cons c rest ih =>
      obtain _ | ⟨char, others⟩ := same
      have folded : lower c = lower _ := char.elim (congrArg lower) And.right
      have literal : mode.region = .inText → c = _ := fun inside =>
        char.resolve_right fun both => both.1 inside
      refine (feed_similar similar folded literal).bind fun step _ fed ⟨ended, next⟩ => ?_
      refine (ih next (region_of_feed fed ▸ others)).bind fun _ _ _ later => ?_
      exact .ok (List.rel_append ended later)

theorem ofText_similar {left right : String} (same : SameButCase left right) :
    Except.Parallel (List.Forall₂ Similar) (ofText left) (ofText right) :=
  scan_similar .between same

end Token

/-! ## Reading similar tokens -/

namespace Parser

open CharacterClass Token

/-- Similar tokens are to come, and so many placeholders have been read. -/
def Input.Similar (left right : Input) : Prop :=
  List.Forall₂ Token.Similar left.tokens right.tokens ∧ left.placeholders = right.placeholders

/-- From similar tokens both readers answer the same and leave similar tokens behind, or both
fail. -/
def ReadAlike {α : Type} (reader other : Reader α) : Prop :=
  ∀ ⦃left right : Input⦄, left.Similar right →
    Except.Parallel (fun answer after => answer.1 = after.1 ∧ answer.2.Similar after.2)
      (reader left) (other right)

/-- A reader that does not see letter case. -/
abbrev Blind {α : Type} (reader : Reader α) : Prop :=
  ReadAlike reader reader

section Rules

variable {α β : Type} {reader other : Reader α}

theorem readAlike_pure (answer : α) : Blind (pure answer : Reader α) :=
  fun _ _ similar => .ok ⟨rfl, similar⟩

/-- Readers that only fail read alike, whatever they say. -/
theorem readAlike_of_fails (fails : ∀ input, ∃ failure, reader input = .error failure)
    (others : ∀ input, ∃ failure, other input = .error failure) : ReadAlike reader other := by
  intro left right _
  obtain ⟨failure, failed⟩ := fails left
  obtain ⟨refusal, refused⟩ := others right
  rw [failed, refused]
  exact .error failure refusal

theorem ReadAlike.bind {next after : α → Reader β} (first : ReadAlike reader other)
    (second : ∀ answer, ReadAlike (next answer) (after answer)) :
    ReadAlike (reader >>= next) (other >>= after) := by
  intro left right similar
  refine (first similar).bind ?_
  rintro ⟨answer, rest⟩ ⟨_, behind⟩ _ ⟨rfl, following⟩
  exact second answer following

theorem readAlike_ite {test : Prop} [Decidable test] {yes no : Reader α}
    (first : ReadAlike reader other) (second : ReadAlike yes no) :
    ReadAlike (if test then reader else yes) (if test then other else no) := by
  split
  · exact first
  · exact second

theorem blind_lift (attempt : Except Failure α) : Blind (liftM attempt : Reader α) := by
  intro left right similar
  cases attempt with
  | error failure => exact .error failure failure
  | ok content => exact .ok ⟨rfl, similar⟩

theorem readAlike_throw (failure refusal : Failure) :
    ReadAlike (throw failure : Reader α) (throw refusal) :=
  readAlike_of_fails (fun _ => ⟨failure, rfl⟩) fun _ => ⟨refusal, rfl⟩

theorem readAlike_reject (token refused : Token) :
    ReadAlike (reject token : Reader α) (reject refused) :=
  readAlike_of_fails (fun _ => ⟨_, rfl⟩) fun _ => ⟨_, rfl⟩

theorem blind_unexpected : Blind (unexpected : Reader α) := by
  have fails (input : Input) : ∃ failure, (unexpected : Reader α) input = .error failure := by
    unfold unexpected
    split <;> exact ⟨_, rfl⟩
  exact readAlike_of_fails fails fails

/-- Taking the next token: what is read behind it must not see the case of its letters. -/
theorem blind_next_bind {next : Token → Reader β}
    (each : ∀ token, Blind (next token))
    (words : ∀ name written, lowerCase name = lowerCase written →
      ReadAlike (next (.word name)) (next (.word written))) :
    Blind (Parser.next >>= next) := by
  rintro ⟨tokens, count⟩ ⟨others, _⟩ ⟨similar, rfl⟩
  cases similar with
  | nil => exact .error _ _
  | @cons token _ remaining behind first rest =>
      have following : Input.Similar ⟨remaining, count⟩ ⟨behind, count⟩ := ⟨rest, rfl⟩
      cases first with
      | refl => exact each token following
      | word same => exact words _ _ same following

end Rules

theorem isKeyword_similar {token other : Token} (similar : token.Similar other) (word : String) :
    isKeyword word token = isKeyword word other := by
  cases similar with
  | refl => rfl
  | word same =>
      have letters := congrArg String.toList same
      simp only [lowerCase, String.toList_ofList] at letters
      simp only [isKeyword, sameIgnoringCase, letters]

theorem blind_skipIf {test : Token → Bool}
    (blind : ∀ token other : Token, token.Similar other → test token = test other) :
    Blind (skipIf test) := by
  rintro ⟨tokens, count⟩ ⟨others, _⟩ ⟨similar, rfl⟩
  cases similar with
  | nil => exact .ok ⟨rfl, .nil, rfl⟩
  | cons first rest =>
      simp only [skipIf, blind _ _ first]
      split
      · exact .ok ⟨rfl, rest, rfl⟩
      · exact .ok ⟨rfl, .cons first rest, rfl⟩

theorem blind_skipKeyword (word : String) : Blind (skipKeyword word) :=
  blind_skipIf fun _ _ similar => isKeyword_similar similar word

theorem blind_skipSymbol (mark : Char) : Blind (skipSymbol mark) :=
  blind_skipIf fun _ _ similar => by
    cases similar with
    | refl => rfl
    | word => rfl

theorem blind_keyword (word : String) : Blind (keyword word) :=
  (blind_skipKeyword word).bind fun _ => readAlike_ite blind_unexpected (readAlike_pure _)

theorem blind_symbol (mark : Char) : Blind (symbol mark) :=
  (blind_skipSymbol mark).bind fun _ => readAlike_ite blind_unexpected (readAlike_pure _)

theorem similar_word {name : String} {token : Token} (similar : Token.Similar (.word name) token) :
    ∃ written, token = .word written ∧ lowerCase written = lowerCase name := by
  cases similar with
  | refl => exact ⟨name, rfl, rfl⟩
  | word same => exact ⟨_, rfl, same.symm⟩

theorem eq_symbol_of_similar {token : Token} {mark : Char}
    (similar : Token.Similar token (.symbol mark)) : token = .symbol mark := by
  cases similar
  rfl

theorem identifierOf_of_ne {name : String} (other : lowerCase name ≠ "sys") (rest : List Token) :
    identifierOf (.word name :: rest) = .ok (lowerCase name, rest) := by
  rw [identifierOf.eq_def]
  exact if_neg other

theorem identifierOf_schema {name : String} (schema : lowerCase name = "sys") (rest : List Token) :
    identifierOf (.word name :: rest) =
      match rest with
      | .symbol '.' :: rest => identifierOf rest
      | rest => .ok (lowerCase name, rest) := by
  rw [identifierOf.eq_def]
  exact if_pos schema

/-- An identifier is folded, and so is the schema in front of it. -/
theorem identifierOf_similar {left right : List Token}
    (similar : List.Forall₂ Token.Similar left right) :
    Except.Parallel (fun answer after => answer.1 = after.1 ∧
      List.Forall₂ Token.Similar answer.2 after.2) (identifierOf left) (identifierOf right) := by
  induction left using identifierOf.induct generalizing right
  case case1 =>
    cases similar
    exact .error _ _
  case case2 name _ schema rest ih =>
    obtain _ | ⟨first, _ | ⟨point, behind⟩⟩ := similar
    obtain ⟨written, rfl, same⟩ := similar_word first
    cases point
    rw [identifierOf_schema schema, identifierOf_schema (same.trans schema)]
    exact ih behind
  case case3 name _ schema rest other =>
    obtain _ | ⟨first, behind⟩ := similar
    obtain ⟨written, rfl, same⟩ := similar_word first
    rw [identifierOf_schema schema, identifierOf_schema (same.trans schema)]
    split
    · exact absurd rfl (other _)
    · split
      · obtain _ | ⟨point, others⟩ := behind
        cases eq_symbol_of_similar point
        exact absurd rfl (other _)
      · exact .ok ⟨same.symm, behind⟩
  case case4 name rest _ other =>
    obtain _ | ⟨first, behind⟩ := similar
    obtain ⟨written, rfl, same⟩ := similar_word first
    rw [identifierOf_of_ne other, identifierOf_of_ne (same.trans_ne other)]
    exact .ok ⟨same.symm, behind⟩
  case case5 token tail other =>
    obtain _ | ⟨first, behind⟩ := similar
    cases first with
    | refl =>
        cases token with
        | word name => exact absurd rfl (other name)
        | _ => exact .error _ _
    | word => exact absurd rfl (other _)

theorem blind_identifier : Blind identifier := by
  rintro ⟨tokens, count⟩ ⟨others, _⟩ ⟨similar, rfl⟩
  refine (identifierOf_similar similar).bind ?_
  rintro ⟨name, rest⟩ ⟨_, behind⟩ _ ⟨rfl, following⟩
  exact .ok ⟨rfl, following, rfl⟩

section Lists

variable {α : Type} {item : Reader α}

theorem blind_separatedUpTo (each : Blind item) (limit : Nat) :
    Blind (separatedUpTo item limit) := by
  induction limit with
  | zero => exact each.bind fun first => readAlike_pure _
  | succ limit ih =>
      exact each.bind fun first => (blind_skipSymbol ',').bind fun _ =>
        readAlike_ite (ih.bind fun others => readAlike_pure _) (readAlike_pure _)

theorem blind_separated (each : Blind item) : Blind (separated item) := by
  intro left right similar
  have lengths := similar.1.length_eq
  simp only [separated, lengths]
  exact blind_separatedUpTo each _ similar

theorem blind_parenthesized (each : Blind item) : Blind (parenthesized item) :=
  (blind_symbol '(').bind fun _ => (blind_separated each).bind fun items =>
    (blind_symbol ')').bind fun _ => readAlike_pure items

end Lists

theorem blind_typeArgument : Blind typeArgument := by
  refine blind_next_bind (fun token => ?_) fun _ _ _ => readAlike_reject _ _
  split
  · split
    · exact readAlike_pure _
    · exact readAlike_throw _ _
  · exact readAlike_reject _ _

theorem blind_typeArguments : Blind typeArguments :=
  (blind_skipSymbol '(').bind fun _ => readAlike_ite
    ((blind_separated blind_typeArgument).bind fun arguments =>
      (blind_symbol ')').bind fun _ => readAlike_pure arguments)
    (readAlike_pure [])

theorem blind_columnDeclaration : Blind columnDeclaration :=
  blind_identifier.bind fun _ => blind_identifier.bind fun typeName =>
    blind_typeArguments.bind fun arguments =>
      (blind_lift (DeclaredType.parse typeName arguments)).bind fun _ => readAlike_pure _

theorem blind_literalText : Blind literalText := by
  refine blind_next_bind (fun token => ?_) fun _ _ _ => readAlike_reject _ _
  split
  · exact readAlike_pure _
  · exact readAlike_reject _ _

theorem readAlike_wordValue {name other : String} (same : lowerCase name = lowerCase other) :
    ReadAlike (wordValue name) (wordValue other) := by
  unfold wordValue
  rw [same]
  split
  · exact readAlike_pure _
  · exact readAlike_pure _
  · exact readAlike_pure _
  · exact blind_literalText.bind fun content =>
      (blind_lift (Coercion.readDate content)).bind fun _ => readAlike_pure _
  · exact blind_literalText.bind fun content =>
      (blind_lift (Coercion.readTime content)).bind fun _ => readAlike_pure _
  · exact blind_literalText.bind fun content =>
      (blind_lift (Coercion.readTimestamp content)).bind fun _ => readAlike_pure _
  · exact readAlike_throw _ _

theorem blind_numbered : Blind numbered :=
  fun _ _ similar => .ok ⟨congrArg Expression.placeholder similar.2, similar.1,
    congrArg (· + 1) similar.2⟩

/-- A keyword for a value is folded before it is looked up. -/
theorem blind_expression : Blind expression := by
  refine (blind_skipSymbol '-').bind fun negative => blind_next_bind (fun token => ?_) ?_
  · split
    · exact (blind_lift _).bind fun _ => readAlike_pure _
    · exact readAlike_ite (readAlike_reject _ _) blind_numbered
    · exact readAlike_ite (readAlike_reject _ _) (readAlike_pure _)
    · exact readAlike_ite (readAlike_reject _ _)
        ((readAlike_wordValue rfl).bind fun _ => readAlike_pure _)
    · exact readAlike_reject _ _
  · intro name written same
    exact readAlike_ite (readAlike_reject _ _)
      ((readAlike_wordValue same).bind fun _ => readAlike_pure _)

/-! ## Reading statements -/

theorem blind_filter : Blind filter :=
  (blind_skipKeyword "where").bind fun _ => readAlike_ite
    (blind_identifier.bind fun _ => (blind_symbol '=').bind fun _ =>
      blind_expression.bind fun _ => readAlike_pure _)
    (readAlike_pure _)

theorem blind_assignment : Blind assignment :=
  blind_identifier.bind fun _ => (blind_symbol '=').bind fun _ =>
    blind_expression.bind fun _ => readAlike_pure _

theorem blind_createTable : Blind createTable :=
  blind_identifier.bind fun _ => (blind_parenthesized blind_columnDeclaration).bind
    fun _ => readAlike_pure _

theorem blind_columnList : Blind columnList :=
  (blind_skipSymbol '(').bind fun _ => readAlike_ite
    ((blind_separated blind_identifier).bind fun _ =>
      (blind_symbol ')').bind fun _ => readAlike_pure _)
    (readAlike_pure _)

theorem blind_insert : Blind insert :=
  blind_identifier.bind fun _ => blind_columnList.bind fun _ =>
    (blind_keyword "values").bind fun _ =>
      (blind_separated (blind_parenthesized blind_expression)).bind fun _ =>
        readAlike_pure _

theorem blind_projection : Blind projection :=
  (blind_skipSymbol '*').bind fun _ => readAlike_ite (readAlike_pure _)
    ((blind_separated blind_identifier).bind fun _ => readAlike_pure _)

theorem blind_select : Blind select :=
  blind_projection.bind fun _ => (blind_keyword "from").bind fun _ =>
    blind_identifier.bind fun _ => blind_filter.bind fun _ =>
      readAlike_pure _

theorem blind_update : Blind update :=
  blind_identifier.bind fun _ => (blind_keyword "set").bind fun _ =>
    (blind_separated blind_assignment).bind fun _ => blind_filter.bind fun _ =>
      readAlike_pure _

theorem blind_delete : Blind delete :=
  blind_identifier.bind fun _ => blind_filter.bind fun _ =>
    readAlike_pure _

theorem blind_statement : Blind statement :=
  (blind_skipKeyword "create").bind fun _ => readAlike_ite
    ((blind_keyword "table").bind fun _ => blind_createTable) <|
  (blind_skipKeyword "drop").bind fun _ => readAlike_ite
    ((blind_keyword "table").bind fun _ => blind_identifier.bind fun _ =>
      readAlike_pure _) <|
  (blind_skipKeyword "insert").bind fun _ => readAlike_ite
    ((blind_keyword "into").bind fun _ => blind_insert) <|
  (blind_skipKeyword "select").bind fun _ => readAlike_ite blind_select <|
  (blind_skipKeyword "update").bind fun _ => readAlike_ite blind_update <|
  (blind_skipKeyword "delete").bind fun _ => readAlike_ite
    ((blind_keyword "from").bind fun _ => blind_delete)
    blind_unexpected

theorem blind_whole : Blind whole := by
  refine blind_statement.bind fun found => (blind_skipSymbol ';').bind fun _ => ?_
  rintro ⟨tokens, count⟩ ⟨others, _⟩ ⟨similar, rfl⟩
  cases similar with
  | nil => exact .ok ⟨rfl, .nil, rfl⟩
  | cons first rest => exact .error _ _

end Parser

namespace Statement

/-- **Letter case outside text literals does not matter**: of two texts that differ in nothing else
both are the same statement, or neither is one. -/
theorem parse_alike_of_sameButCase {left right : String} (same : SameButCase left right) :
    Except.Alike (Statement.parse left) (Statement.parse right) := by
  refine Except.Parallel.alike ((Token.ofText_similar same).bind fun tokens others _ similar => ?_)
  have start : Parser.Input.Similar ⟨tokens, 0⟩ ⟨others, 0⟩ := ⟨similar, rfl⟩
  refine (Parser.blind_whole start).bind ?_
  rintro ⟨found, rest⟩ ⟨_, behind⟩ _ ⟨rfl, _⟩
  exact .ok rfl

/-- Keywords, names, the schema and the words of values in another case; the literal is kept. -/
theorem parse_alike_of_sameButCase_insert :
    let left := "insert into Sys.t (A, \"b\") values (NULL, date '2020-01-31', 'It''s \"so\"')"
    let right := "INSERT INTO sYS.T (a, \"B\") VALUES (null, DATE '2020-01-31', 'It''s \"so\"')"
    SameButCase left right ∧ (Statement.parse left).toOption.isSome = true ∧
      Except.Alike (Statement.parse left) (Statement.parse right) := by
  intro left right
  have same : SameButCase left right := by decide +kernel
  exact ⟨same, by decide +kernel, parse_alike_of_sameButCase same⟩

end Statement

end ColumnStore
