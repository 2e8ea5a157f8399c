import ColumnStore.Proofs.Calendar.Reading
import ColumnStore.Proofs.Except
import ColumnStore.Sql.Token

/-!
# The steps of the scanner

A character goes on with the token that is read, or ends it and starts what is behind it. What a
single character can do is said once, with the reasons for it (`Token.Fed`), so that an invariant
of the scanner needs one argument for all tokens that end.

A blank goes on with no token: it is no quote, and neither a letter nor a numeral of any script. So
it ends every token that the end of the text would end, and leaves the scanner between two tokens.
A text that can be scanned up to its end can therefore be followed by a blank and any other text:
it has the same tokens as before, and the text behind the blank is scanned as if it stood alone.

Main results: `Token.fed_of_feed` and `Token.scan_append_blank`.
-/

set_option autoImplicit false

namespace ColumnStore

/-! ## Blanks are neither letters nor numerals -/

namespace CharacterClass

open CharacterTable (letterEdges numeralEdges)

variable {c : Char}

theorem isAlpha_iff : c.isAlpha = true ↔
    65 ≤ c.toNat ∧ c.toNat ≤ 90 ∨ 97 ≤ c.toNat ∧ c.toNat ≤ 122 := by
  have upper : c.isUpper = true ↔ 65 ≤ c.val ∧ c.val ≤ 90 := decide_eq_true_iff
  have lower : c.isLower = true ↔ 97 ≤ c.val ∧ c.val ≤ 122 := by
    show (decide (97 ≤ c.val) && decide (c.val ≤ 122)) = true ↔ _
    rw [Bool.and_eq_true, decide_eq_true_iff, decide_eq_true_iff]
  have halves : c.isAlpha = true ↔ c.isUpper = true ∨ c.isLower = true :=
    (Bool.or_eq_true _ _).to_iff
  rw [halves, upper, lower]
  rfl

/-- Between two numbers with as many edges below them no edge lies. -/
theorem countP_of_flat {edges : Array Nat} {low high n : Nat} (least : low ≤ n)
    (greatest : n ≤ high) (flat : edges.countP (· ≤ high) = edges.countP (· ≤ low)) :
    edges.countP (· ≤ n) = edges.countP (· ≤ low) := by
  have mono {left right : Nat} (order : left ≤ right) :
      edges.countP (· ≤ left) ≤ edges.countP (· ≤ right) :=
    Array.countP_mono_left fun _ _ below =>
      decide_eq_true ((of_decide_eq_true below).trans order)
  exact Nat.le_antisymm ((mono greatest).trans_eq flat) (mono least)

/-- Runs of numbers beyond ASCII that hold all blanks, and no letters or numerals. -/
def blankRuns : List (Nat × Nat) :=
  [(0x85, 0xA0), (0x1680, 0x1680), (0x2000, 0x205F), (0x3000, 0x3000)]

theorem exists_blankRun (blank : isBlank c = true) (wide : ¬ c.toNat < 128) :
    ∃ run ∈ blankRuns, run.1 ≤ c.toNat ∧ c.toNat ≤ run.2 := by
  simp only [isBlank, Bool.or_eq_true, Bool.and_eq_true, decide_eq_true_eq] at blank
  simp only [blankRuns, List.mem_cons, List.not_mem_nil, or_false, exists_eq_or_imp,
    exists_eq_left]
  omega

theorem flat_of_blankRun : ∀ run ∈ blankRuns, ∀ edges ∈ [letterEdges, numeralEdges],
    edges.countP (· ≤ run.2) = edges.countP (· ≤ run.1) ∧ edges.countP (· ≤ run.1) % 2 = 0 := by
  simp only [← Array.countP_toList]
  decide +kernel

theorem inRun_of_isBlank {edges : Array Nat} (table : edges ∈ [letterEdges, numeralEdges])
    (blank : isBlank c = true) (wide : ¬ c.toNat < 128) : inRun edges c = false := by
  obtain ⟨run, among, least, greatest⟩ := exists_blankRun blank wide
  obtain ⟨flat, even⟩ := flat_of_blankRun run among edges table
  rw [inRun, countP_of_flat least greatest flat, even]
  rfl

theorem isBlank_of_isAlpha (letter : c.isAlpha = true) : isBlank c = false := by
  have bounds := isAlpha_iff.1 letter
  simp only [isBlank, Bool.or_eq_false_iff, Bool.and_eq_false_iff, decide_eq_false_iff_not]
  omega

theorem isLetter_of_isBlank (blank : isBlank c = true) : isLetter c = false := by
  unfold isLetter
  split
  · refine Bool.eq_false_iff.2 fun letter => ?_
    rw [isBlank_of_isAlpha letter] at blank
    cases blank
  · next wide => exact inRun_of_isBlank (by simp) blank wide

theorem isNumeral_of_isBlank (blank : isBlank c = true) : isNumeral c = false := by
  unfold isNumeral
  split
  · refine Bool.eq_false_iff.2 fun digit => ?_
    rw [Calendar.isBlank_of_isDigit digit] at blank
    cases blank
  · next wide => exact inRun_of_isBlank (by simp) blank wide

/-- A character that is no blank is not the same as a blank. -/
theorem ne_of_isBlank {mark : Char} (blank : isBlank c = true) (solid : isBlank mark = false) :
    c ≠ mark := by
  rintro rfl
  rw [blank] at solid
  cases solid

end CharacterClass

namespace Token

open CharacterClass (isBlank)

variable {mode next : Mode} {token : Token} {tokens : List Token} {c blank : Char}
  {front rest : List Char}

theorem continuesNumber_of_isBlank (apart : isBlank blank = true) :
    continuesNumber blank = false := by
  have digit : Digits.isDigit blank = false := Bool.eq_false_iff.2 fun digit => by
    rw [Calendar.isBlank_of_isDigit digit] at apart
    cases apart
  have point : blank ≠ '.' := CharacterClass.ne_of_isBlank apart (by decide)
  simp [continuesNumber, digit, point]

theorem continuesWord_of_isBlank (apart : isBlank blank = true) : continuesWord blank = false := by
  have mark : blank ≠ '_' := CharacterClass.ne_of_isBlank apart (by decide)
  simp [continuesWord, CharacterClass.isLetter_of_isBlank apart,
    CharacterClass.isNumeral_of_isBlank apart, mark]

/-! ## Single characters -/

/-- What a character does to the token that is read: it goes on with it, or it ends it and starts
what is behind it. -/
inductive Fed : Mode → Char → List Token → Mode → Prop
  | ended {mode next : Mode} {c : Char} {ended started : List Token}
      (finished : finish mode = .ok ended) (starts : start c = .ok (started, next)) :
      Fed mode c (ended ++ started) next
  | text {c : Char} (read : List Char) (other : c ≠ '\'') :
      Fed (.inText read) c [] (.inText (c :: read))
  | quote (read : List Char) : Fed (.inText read) '\'' [] (.afterQuote read)
  | secondQuote (read : List Char) : Fed (.afterQuote read) '\'' [] (.inText ('\'' :: read))
  | name {c : Char} (read : List Char) (other : c ≠ '"') :
      Fed (.inName read) c [] (.inName (c :: read))
  | nameEnd (read : List Char) : Fed (.inName read) '"' [.word (collected read)] .between
  | number {c : Char} (read : List Char) (continues : continuesNumber c = true) :
      Fed (.inNumber read) c [] (.inNumber (c :: read))
  | word {c : Char} (read : List Char) (continues : continuesWord c = true) :
      Fed (.inWord read) c [] (.inWord (c :: read))

/-- Every step of the scanner is one of these. -/
theorem fed_of_feed (fed : feed mode c = .ok (tokens, next)) : Fed mode c tokens next := by
  have ends {mode : Mode} {token : Token} (ended : endWith token c = .ok (tokens, next))
      (finished : finish mode = .ok [token]) : Fed mode c tokens next := by
    obtain ⟨⟨started, behind⟩, starts, whole⟩ := Except.bind_eq_ok.1 ended
    cases whole
    exact .ended finished starts
  cases mode with
  | between =>
      have finished : finish .between = .ok [] := rfl
      exact .ended finished fed
  | inText read =>
      cases fed
      split
      · next quote =>
          subst quote
          exact .quote read
      · next other => exact .text read other
  | afterQuote read =>
      simp only [feed] at fed
      split at fed
      · next quote =>
          subst quote
          cases fed
          exact .secondQuote read
      · exact ends fed rfl
  | inName read =>
      simp only [feed] at fed
      split at fed
      · next quote =>
          subst quote
          cases fed
          exact .nameEnd read
      · next other =>
          cases fed
          exact .name read other
  | inNumber read =>
      simp only [feed] at fed
      split at fed
      · next continues =>
          cases fed
          exact .number read continues
      · exact ends fed rfl
  | inWord read =>
      simp only [feed] at fed
      split at fed
      · next continues =>
          cases fed
          exact .word read continues
      · exact ends fed rfl

theorem scan_cons (fed : feed mode c = .ok (tokens, next)) :
    scan mode (c :: rest) = (tokens ++ ·) <$> scan next rest := by
  rw [scan, fed]
  show (do let others ← scan next rest; return tokens ++ others) = _
  cases scan next rest <;> rfl

theorem scan_of_feed (fed : feed mode c = .ok ([], next)) :
    scan mode (c :: rest) = scan next rest := by
  rw [scan_cons fed]
  cases scan next rest <;> rfl

theorem scan_of_feed_token (fed : feed mode c = .ok ([token], next)) :
    scan mode (c :: rest) = (token :: ·) <$> scan next rest :=
  scan_cons fed

/-- Characters that only go on with a token are collected. -/
theorem scan_collect {mode : List Char → Mode} {run : List Char} (read : List Char)
    (goes : ∀ c ∈ run, ∀ read, feed (mode read) c = .ok ([], mode (c :: read))) :
    scan (mode read) (run ++ rest) = scan (mode (run.reverse ++ read)) rest := by
  induction run generalizing read with
  | nil => rfl
  | cons c run ih =>
      rw [List.cons_append, scan_of_feed (goes c List.mem_cons_self read),
        ih _ fun other member => goes other (List.mem_cons_of_mem _ member), List.reverse_cons,
        List.append_assoc]
      rfl

theorem collected_reverse (run : List Char) :
    collected (run.reverse ++ []) = String.ofList run := by
  rw [collected, List.append_nil, List.reverse_reverse]

/-! ## Texts that a blank sets apart -/

/-- A blank ends the token that the end of the text would end. -/
theorem feed_blank (apart : isBlank blank = true) (ended : finish mode = .ok tokens) :
    feed mode blank = .ok (tokens, .between) := by
  have first : start blank = .ok ([], .between) := if_pos apart
  have ends (token : Token) : endWith token blank = .ok ([token], .between) := by
    rw [endWith, first]
    rfl
  cases mode with
  | between =>
      cases ended
      exact first
  | inText read => cases ended
  | afterQuote read =>
      cases ended
      rw [feed, if_neg (CharacterClass.ne_of_isBlank apart (by decide)), ends]
  | inName read => cases ended
  | inNumber read =>
      cases ended
      rw [feed, if_neg (Bool.eq_false_iff.1 (continuesNumber_of_isBlank apart)), ends]
  | inWord read =>
      cases ended
      rw [feed, if_neg (Bool.eq_false_iff.1 (continuesWord_of_isBlank apart)), ends]

/-- **Behind a text that can be scanned and a blank the scanner starts anew.** -/
theorem scan_append_blank (apart : isBlank blank = true) (scanned : scan mode front = .ok tokens)
    (rest : List Char) :
    scan mode (front ++ blank :: rest) = (tokens ++ ·) <$> scan .between rest := by
  induction front generalizing mode tokens with
  | nil => exact scan_cons (feed_blank apart scanned)
  | cons c front ih =>
      obtain ⟨⟨ended, next⟩, fed, scanned⟩ := Except.bind_eq_ok.1 scanned
      obtain ⟨others, later, whole⟩ := Except.bind_eq_ok.1 scanned
      cases whole
      rw [List.cons_append, scan_cons fed, ih later]
      cases scan .between rest with
      | error failure => rfl
      | ok found => exact congrArg Except.ok (List.append_assoc ended others found).symm

/-- The tokens of two texts with a blank between them. -/
theorem ofText_append_blank {first second : String} {more : List Token}
    (apart : isBlank blank = true) (one : ofText first = .ok tokens)
    (other : ofText second = .ok more) :
    ofText (first ++ blank.toString ++ second) = .ok (tokens ++ more) := by
  have characters : (first ++ blank.toString ++ second).toList =
      first.toList ++ blank :: second.toList := by
    simp [String.toList_append]
  rw [ofText, characters, scan_append_blank apart one]
  exact congrArg (Except.map (tokens ++ ·)) other

end Token

end ColumnStore
