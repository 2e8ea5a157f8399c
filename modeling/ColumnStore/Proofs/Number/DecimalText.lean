import ColumnStore.Proofs.Number.Decimal
import ColumnStore.Proofs.Number.Rational

/-!
# Decimals are read as they are written

A decimal is written in one of four forms, after its size and its scale: zero is a single digit,
small numbers have a negative exponent, numbers with many zeros in front of the point a positive
one, and all others are written positionally. Each form is read by a part of `parseChars?` of its
own. What is read stands for the number that was written, and all forms keep the scale but two:
zero has no places, and zeros that fill the places in front of the point become digits.

Main result: `parse?_text`.
-/

set_option autoImplicit false

namespace ColumnStore.Decimal

open Digits (OnlyDigits)

/-! ## Exponents -/

theorem exponent?_minus {n : Nat} (fits : (n : ℤ) ≤ IntegerKind.int64.maximum) :
    exponent? (some ('-' :: Digits.ofNat n)) = some (-(n : ℤ)) := by
  have read := Digits.signedInt?_signed (Digits.ofNat_ne_nil n) (Digits.onlyDigits_ofNat n) true
  rw [Digits.signed, if_pos rfl, if_pos rfl, Digits.toNat_ofNat] at read
  have inside : IntegerKind.int128.ofInt? (-(n : ℤ)) = some ⟨-(n : ℤ), by
      simp only [IntegerKind.maximum, IntegerKind.minimum] at fits ⊢; omega⟩ :=
    IntegerKind.ofInt?_eq_some.2 rfl
  simp only [exponent?, read, inside, Option.bind_eq_bind, Option.bind_some]
  rfl

theorem exponent?_plus {n : Nat} (fits : (n : ℤ) ≤ -IntegerKind.int64.minimum) :
    exponent? (some ('+' :: Digits.ofNat n)) = some (n : ℤ) := by
  have read : Digits.signedInt? ('+' :: Digits.ofNat n) = some (n : ℤ) := by
    show (Digits.toNat? (Digits.ofNat n)).map (fun n => (n : ℤ)) = _
    rw [Digits.toNat?_of_onlyDigits (Digits.ofNat_ne_nil n) (Digits.onlyDigits_ofNat n),
      Digits.toNat_ofNat]
    rfl
  have inside : IntegerKind.int128.ofInt? (n : ℤ) = some ⟨n, by
      simp only [IntegerKind.maximum, IntegerKind.minimum] at fits ⊢; omega⟩ :=
    IntegerKind.ofInt?_eq_some.2 rfl
  simp only [exponent?, read, inside, Option.bind_eq_bind, Option.bind_some]
  rfl

/-! ## Forms -/

section Forms

variable {digits : List Char} {negative : Bool}

/-- Digits with a point behind the first of them, and a negative exponent. -/
theorem parseChars?_scientific (some_ : digits ≠ []) (only : OnlyDigits digits) {exponent : Nat}
    (fits : (digits.length : ℤ) - 1 + exponent ≤ IntegerKind.int64.maximum) :
    parseChars? (Digits.signed negative
        (Digits.scientific digits ++ 'E' :: '-' :: Digits.ofNat exponent)) =
      some ⟨if negative then -(Digits.toNat digits : ℤ) else Digits.toNat digits,
        (digits.length : ℤ) - 1 + exponent⟩ := by
  have zero := IntegerKind.minimum_le_zero .int64
  have longer : 0 < digits.length := List.length_pos_iff.2 some_
  have read : exponent? (some ('-' :: Digits.ofNat exponent)) = some (-(exponent : ℤ)) :=
    exponent?_minus (by omega)
  rw [Digits.signed_append]
  match digits, some_ with
  | [digit], _ =>
      rw [Digits.scientific, parseChars?_marked (isMark_signed only negative) rfl read,
        baseAt?_whole (List.cons_ne_nil _ _) only (by omega)
          (by simp only [List.length_singleton] at fits; omega)]
      simp
  | digit :: other :: rest, _ =>
      have whole : OnlyDigits [digit] := only.of_subset (by simp)
      have places : OnlyDigits (other :: rest) := only.of_subset (List.subset_cons_self _ _)
      have point : Digits.scientific (digit :: other :: rest) =
          [digit] ++ '.' :: other :: rest := rfl
      have scale : ((other :: rest).length : ℤ) - -exponent =
          ((digit :: other :: rest).length : ℤ) - 1 + exponent := by
        push_cast [List.length_cons]
        ring
      rw [point, parseChars?_marked (isMark_point whole places negative) rfl read,
        baseAt?_point (List.cons_ne_nil _ _) whole places (by omega) (by omega), scale]
      rfl

/-- Digits and a positive exponent. -/
theorem parseChars?_exponent (some_ : digits ≠ []) (only : OnlyDigits digits) {exponent : Nat}
    (fits : (exponent : ℤ) ≤ -IntegerKind.int64.minimum) :
    parseChars? (Digits.signed negative (digits ++ 'e' :: '+' :: Digits.ofNat exponent)) =
      some ⟨if negative then -(Digits.toNat digits : ℤ) else Digits.toNat digits, -exponent⟩ := by
  have most := IntegerKind.zero_le_maximum .int64
  rw [Digits.signed_append,
    parseChars?_marked (isMark_signed only negative) rfl (exponent?_plus fits),
    baseAt?_whole some_ only (by omega) (by omega)]

/-- Digits alone. -/
theorem parseChars?_whole (some_ : digits ≠ []) (only : OnlyDigits digits) :
    parseChars? (Digits.signed negative digits) =
      some ⟨if negative then -(Digits.toNat digits : ℤ) else Digits.toNat digits, 0⟩ := by
  rw [parseChars?_of_noMark (isMark_signed only negative),
    baseAt?_whole some_ only (by decide) (by decide), neg_zero]

end Forms

/-! ## The text of a decimal -/

variable {number : Decimal}

theorem signed_natAbs (n : ℤ) :
    (if decide (n < 0) then -(n.natAbs : ℤ) else n.natAbs) = n := by
  split
  · next negative =>
      have below : n < 0 := of_decide_eq_true negative
      omega
  · next natural =>
      have least : ¬ n < 0 := fun below => natural (decide_eq_true below)
      omega

/-- Positional digits with places behind the point are plain notation. -/
theorem positional_of_pos (places : 0 < number.scale) :
    Digits.positional (Digits.ofNat number.unscaled.natAbs) number.scale = number.plainDigits := by
  rw [Digits.positional, if_neg (by omega)]
  rfl

/-- Zeros in front of the point are read as digits. -/
theorem parseChars?_zeros (whole : number.scale ≤ 0) :
    parseChars? (Digits.signed (number.unscaled < 0)
        (Digits.positional (Digits.ofNat number.unscaled.natAbs) number.scale)) =
      some ⟨number.unscaled * 10 ^ (-number.scale).toNat, 0⟩ := by
  have only := Digits.onlyDigits_append.2
    ⟨Digits.onlyDigits_ofNat number.unscaled.natAbs,
      Digits.onlyDigits_replicate (-number.scale).toNat⟩
  have some_ := List.append_ne_nil_of_left_ne_nil (Digits.ofNat_ne_nil number.unscaled.natAbs)
    (List.replicate (-number.scale).toNat '0')
  rw [Digits.positional, if_pos whole, parseChars?_whole some_ only, Digits.toNat_append,
    Digits.toNat_replicate_zero, Digits.toNat_ofNat, List.length_replicate]
  conv_rhs => rw [← signed_natAbs number.unscaled]
  split <;> simp

/-- What is written positionally is read as the number that was written. -/
theorem parseChars?_positional (greatest : number.scale ≤ IntegerKind.int64.maximum) :
    ∃ read, parseChars? (Digits.signed (number.unscaled < 0)
        (Digits.positional (Digits.ofNat number.unscaled.natAbs) number.scale)) = some read ∧
      read.toRat = number.toRat := by
  by_cases places : 0 < number.scale
  · refine ⟨number, ?_, rfl⟩
    rw [positional_of_pos places]
    exact parseChars?_plain places.le greatest
  · refine ⟨_, parseChars?_zeros (by omega), ?_⟩
    obtain ⟨zeros, power⟩ := Int.eq_ofNat_of_zero_le (a := -number.scale) (by omega)
    simp [toRat, power]

/-- **A decimal is read as the number that was written**, whatever its size. -/
theorem parse?_text (least : IntegerKind.int64.minimum ≤ number.scale)
    (greatest : number.scale ≤ IntegerKind.int64.maximum) :
    ∃ read, parse? number.text = some read ∧ read.toRat = number.toRat := by
  have some_ := Digits.ofNat_ne_nil number.unscaled.natAbs
  have only := Digits.onlyDigits_ofNat number.unscaled.natAbs
  have longer := List.length_pos_iff.2 some_
  have integer := signed_natAbs number.unscaled
  by_cases zero : number.unscaled = 0
  · refine ⟨⟨0, 0⟩, ?_, ?_⟩
    · rw [text, if_pos zero]
      decide
    · rw [toRat_eq_zero_iff.2 zero, toRat_eq_zero_iff.2 rfl]
  · rw [text, if_neg zero, parse?, String.toList_ofList]
    split_ifs with small large
    · refine ⟨number, ?_, rfl⟩
      rw [parseChars?_scientific some_ only (by omega), Digits.toNat_ofNat, integer]
      exact congrArg some (congrArg (Decimal.mk _) (by omega))
    · refine ⟨number, ?_, rfl⟩
      rw [parseChars?_exponent some_ only (by omega), Digits.toNat_ofNat, integer]
      exact congrArg some (congrArg (Decimal.mk _) (by omega))
    · exact parseChars?_positional greatest

end ColumnStore.Decimal
