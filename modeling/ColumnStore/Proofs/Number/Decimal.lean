import ColumnStore.Number.Decimal.Text
import ColumnStore.Proofs.Number.Digits
import Mathlib.Data.List.TakeWhile

/-!
# Decimals in plain notation

In plain notation a decimal has all its digits, a point even if nothing is behind it, and as
many places behind the point as its scale says, so that zeros at the end keep the scale. A
decimal whose scale is not negative reads as itself again, also a zero with places.

Main result: `parseChars?_plain`.
-/

set_option autoImplicit false

namespace ColumnStore.Decimal

/-- The plain notation of a decimal less its sign: at least one digit, the point, and the
places of the scale. -/
def plainDigits (number : Decimal) : List Char :=
  let all := Digits.padded (number.scale.toNat + 1) number.unscaled.natAbs
  let whole := all.length - number.scale.toNat
  all.take whole ++ '.' :: all.drop whole

/-- The plain notation of a decimal. -/
def plain (number : Decimal) : List Char :=
  Digits.signed (number.unscaled < 0) number.plainDigits

/-! ## Cutting a text -/

section Cut

variable {test : Char → Bool} {front back : List Char} {mark : Char}

theorem cutAt_of_none (absent : ∀ c ∈ front, test c = false) :
    cutAt test front = (front, none) := by
  have all : front.dropWhile (fun c => !test c) = [] :=
    List.dropWhile_eq_nil_iff.2 fun c member => by simp [absent c member]
  rw [cutAt, all]

theorem cutAt_append (absent : ∀ c ∈ front, test c = false) (found : test mark = true) :
    cutAt test (front ++ mark :: back) = (front, some back) := by
  have pass : ∀ c ∈ front, (!test c) = true := fun c member => by simp [absent c member]
  have rest : (front ++ mark :: back).dropWhile (fun c => !test c) = mark :: back := by
    rw [List.dropWhile_append_of_pos pass, List.dropWhile_cons_of_neg (by simp [found])]
  have taken : (front ++ mark :: back).takeWhile (fun c => !test c) = front := by
    rw [List.takeWhile_append_of_pos pass, List.takeWhile_cons_of_neg (by simp [found]),
      List.append_nil]
  rw [cutAt, rest, taken]

end Cut

/-! ## Digits without marks between them -/

theorem isDigit_ne {c mark : Char} (digit : Digits.isDigit c = true)
    (other : Digits.isDigit mark = false) : c ≠ mark := by
  rintro rfl
  rw [digit] at other
  cases other

theorem filter_grouped {digits : List Char} (only : Digits.OnlyDigits digits) :
    digits.filter (· ≠ '_') = digits :=
  List.filter_eq_self.2 fun c member => decide_eq_true (isDigit_ne (only c member) (by decide))

theorem groupedNat?_of_onlyDigits {digits : List Char} (some_ : digits ≠ [])
    (only : Digits.OnlyDigits digits) : groupedNat? digits = some (Digits.toNat digits) := by
  have first : digits.head? ≠ some '_' := fun head =>
    isDigit_ne (only _ (List.mem_of_head? head)) (by decide) rfl
  have noOther : digits.any (fun c => !Digits.isDigit c) = false := by
    rw [List.any_eq_false]
    intro c member
    simp [only c member]
  rw [groupedNat?, if_neg first, if_neg (by simpa using some_), filter_grouped only]
  simp only [noOther, Bool.false_eq_true, if_false]

theorem groupedInt?_signed {digits : List Char} (some_ : digits ≠ [])
    (only : Digits.OnlyDigits digits) (negative : Bool) :
    groupedInt? (Digits.signed negative digits) =
      some (if negative then -(Digits.toNat digits : Int) else Digits.toNat digits) := by
  have read := groupedNat?_of_onlyDigits some_ only
  cases negative with
  | true =>
      show (groupedNat? digits).map (fun n => -(n : Int)) = _
      rw [read]
      rfl
  | false =>
      show groupedInt? digits = _
      unfold groupedInt?
      split
      · exact absurd (only _ List.mem_cons_self) (by decide)
      · exact absurd (only _ List.mem_cons_self) (by decide)
      · rw [read]
        rfl

/-- No digit and no minus sign is another mark. -/
theorem ne_of_mem_signed {digits : List Char} {mark : Char} {negative : Bool}
    (only : Digits.OnlyDigits digits) (other : Digits.isDigit mark = false) (sign : mark ≠ '-') :
    ∀ c ∈ Digits.signed negative digits, c ≠ mark := by
  intro c member
  cases negative with
  | true =>
      rcases List.mem_cons.1 member with rfl | member
      · exact sign.symm
      · exact isDigit_ne (only c member) other
  | false => exact isDigit_ne (only c member) other

/-! ## The text in front of an exponent -/

/-- Whether the character stands in front of an exponent. -/
def isMark (c : Char) : Bool :=
  c = 'e' || c = 'E'

/-- What is read of the text in front of an exponent. -/
def baseAt? (exponent : Int) (base : List Char) : Option Decimal := do
  let (whole, fraction) := cutAt (· = '.') base
  let fraction := fraction.getD []
  let places := (fraction.filter (· ≠ '_')).length
  let scale ← IntegerKind.int64.ofInt? (places - exponent)
  let unscaled ← groupedInt? (whole ++ fraction)
  return ⟨unscaled, scale.val⟩

theorem parseChars?_of_noMark {base : List Char} (noMark : ∀ c ∈ base, isMark c = false) :
    parseChars? base = baseAt? 0 base := by
  have cut : cutAt (fun c => decide (c = 'e') || decide (c = 'E')) base = (base, none) :=
    cutAt_of_none noMark
  simp only [parseChars?, cut, exponent?, Option.bind_eq_bind, Option.bind_some]
  rfl

theorem parseChars?_marked {base digits : List Char} {mark : Char} {exponent : Int}
    (noMark : ∀ c ∈ base, isMark c = false) (found : isMark mark = true)
    (read : exponent? (some digits) = some exponent) :
    parseChars? (base ++ mark :: digits) = baseAt? exponent base := by
  have cut : cutAt (fun c => decide (c = 'e') || decide (c = 'E')) (base ++ mark :: digits) =
      (base, some digits) := cutAt_append noMark found
  simp only [parseChars?, cut, read, Option.bind_eq_bind, Option.bind_some]
  rfl

section Base

variable {front back : List Char} {exponent : Int}

theorem isMark_signed {digits : List Char} (only : Digits.OnlyDigits digits) (negative : Bool) :
    ∀ c ∈ Digits.signed negative digits, isMark c = false := by
  intro c member
  simp only [isMark, Bool.or_eq_false_iff, decide_eq_false_iff_not]
  exact ⟨ne_of_mem_signed only (by decide) (by decide) c member,
    ne_of_mem_signed only (by decide) (by decide) c member⟩

theorem isMark_point (whole : Digits.OnlyDigits front) (places : Digits.OnlyDigits back)
    (negative : Bool) :
    ∀ c ∈ Digits.signed negative (front ++ '.' :: back), isMark c = false := by
  intro c member
  rw [Digits.signed_append, List.mem_append, List.mem_cons] at member
  rcases member with member | rfl | member
  · exact isMark_signed whole negative c member
  · decide
  · exact isMark_signed places false c member

/-- An integer behind an optional minus sign, in front of an exponent. -/
theorem baseAt?_whole (some_ : front ≠ []) (whole : Digits.OnlyDigits front)
    (least : IntegerKind.int64.minimum ≤ -exponent)
    (greatest : -exponent ≤ IntegerKind.int64.maximum) (negative : Bool) :
    baseAt? exponent (Digits.signed negative front) =
      some ⟨if negative then -(Digits.toNat front : Int) else Digits.toNat front, -exponent⟩ := by
  have cut : cutAt (fun c => decide (c = '.')) (Digits.signed negative front) =
      (Digits.signed negative front, none) :=
    cutAt_of_none fun c member =>
      decide_eq_false (ne_of_mem_signed whole (by decide) (by decide) c member)
  have scale : IntegerKind.int64.ofInt? (((([] : List Char).filter (· ≠ '_')).length : Int) -
      exponent) = some ⟨-exponent, least, greatest⟩ :=
    IntegerKind.ofInt?_eq_some.2 (by simp)
  simp only [baseAt?, cut, Option.getD_none, scale, Option.bind_eq_bind, Option.bind_some,
    List.append_nil, groupedInt?_signed some_ whole negative]
  rfl

/-- Digits around a point behind an optional minus sign, in front of an exponent. -/
theorem baseAt?_point (some_ : front ≠ []) (whole : Digits.OnlyDigits front)
    (places : Digits.OnlyDigits back)
    (least : IntegerKind.int64.minimum ≤ back.length - exponent)
    (greatest : back.length - exponent ≤ IntegerKind.int64.maximum) (negative : Bool) :
    baseAt? exponent (Digits.signed negative (front ++ '.' :: back)) =
      some ⟨if negative then -(Digits.toNat (front ++ back) : Int)
        else Digits.toNat (front ++ back), back.length - exponent⟩ := by
  have point : ∀ c ∈ Digits.signed negative front, decide (c = '.') = false :=
    fun c member => decide_eq_false (ne_of_mem_signed whole (by decide) (by decide) c member)
  have cut : cutAt (fun c => decide (c = '.')) (Digits.signed negative front ++ '.' :: back) =
      (Digits.signed negative front, some back) := cutAt_append point (by decide)
  have scale : IntegerKind.int64.ofInt? ((back.length : Int) - exponent) =
      some ⟨back.length - exponent, least, greatest⟩ := IntegerKind.ofInt?_eq_some.2 rfl
  have read := groupedInt?_signed (List.append_ne_nil_of_left_ne_nil some_ back)
    (Digits.onlyDigits_append.2 ⟨whole, places⟩) negative
  rw [Digits.signed_append] at read ⊢
  simp only [baseAt?, cut, Option.getD_some, filter_grouped places, scale, Option.bind_eq_bind,
    Option.bind_some, read]
  rfl

end Base

/-! ## Reading plain notation -/

/-- Digits around a point, behind an optional minus sign, stand for the integer of all digits
at the scale of those behind the point. -/
theorem parseChars?_digits {front back : List Char} (some_ : front ≠ [])
    (whole : Digits.OnlyDigits front) (places : Digits.OnlyDigits back)
    (fits : (back.length : Int) ≤ IntegerKind.int64.maximum) (negative : Bool) :
    parseChars? (Digits.signed negative (front ++ '.' :: back)) =
      some ⟨if negative then -(Digits.toNat (front ++ back) : Int)
        else Digits.toNat (front ++ back), back.length⟩ := by
  have least := IntegerKind.minimum_le_zero .int64
  rw [parseChars?_of_noMark (isMark_point whole places negative),
    baseAt?_point some_ whole places (by omega) (by omega), sub_zero]

/-- What is read without an exponent has a scale that counts places. -/
theorem scale_of_parseChars? {text : List Char} {number : Decimal}
    (noMark : ∀ c ∈ text, (decide (c = 'e') || decide (c = 'E')) = false)
    (read : parseChars? text = some number) :
    0 ≤ number.scale ∧ number.scale ≤ IntegerKind.int64.maximum := by
  simp only [parseChars?, cutAt_of_none noMark, exponent?, Option.bind_eq_bind, Option.bind_some,
    Option.bind_eq_some_iff, Option.pure_def, Option.some.injEq] at read
  obtain ⟨scale, places, unscaled, _, rfl⟩ := read
  have count := IntegerKind.ofInt?_eq_some.1 places
  exact ⟨by simp only [count]; omega, scale.property.2⟩

/-- Plain notation has a digit or more, the point, and as many digits as the scale says; all
digits together are those of the unscaled integer. -/
theorem exists_plainDigits_eq (number : Decimal) :
    ∃ front back, number.plainDigits = front ++ '.' :: back ∧ front ≠ [] ∧
      Digits.OnlyDigits front ∧ Digits.OnlyDigits back ∧ back.length = number.scale.toNat ∧
        Digits.toNat (front ++ back) = number.unscaled.natAbs := by
  let all := Digits.padded (number.scale.toNat + 1) number.unscaled.natAbs
  have only : Digits.OnlyDigits all := Digits.onlyDigits_padded _ _
  have long : number.scale.toNat + 1 ≤ all.length := by
    show _ ≤ (Digits.padLeft _ _).length
    rw [Digits.length_padLeft]
    exact Nat.le_max_left _ _
  refine ⟨all.take (all.length - number.scale.toNat), all.drop (all.length - number.scale.toNat),
    rfl, ?_, only.of_subset (List.take_subset _ _), only.of_subset (List.drop_subset _ _), ?_, ?_⟩
  · intro none_
    have length := congrArg List.length none_
    rw [List.length_take, List.length_nil] at length
    omega
  · rw [List.length_drop]
    omega
  · rw [List.take_append_drop, Digits.toNat_padded]

/-- **A decimal in plain notation reads as itself**, with its scale. -/
theorem parseChars?_plain {number : Decimal} (natural : 0 ≤ number.scale)
    (fits : number.scale ≤ IntegerKind.int64.maximum) :
    parseChars? number.plain = some number := by
  obtain ⟨front, back, same, some_, whole, places, length, all⟩ := number.exists_plainDigits_eq
  have scale : (back.length : Int) = number.scale := by omega
  rw [plain, same, parseChars?_digits some_ whole places (scale ▸ fits), all, scale]
  obtain ⟨unscaled, scale⟩ := number
  by_cases negative : unscaled < 0
  · simp only [negative, decide_true, if_true]
    congr
    omega
  · simp only [negative, decide_false, Bool.false_eq_true, if_false]
    congr
    omega

end ColumnStore.Decimal
