import ColumnStore.Number.Digits
import Mathlib.Data.Nat.Log
import Mathlib.Tactic.Ring

/-!
# Numbers and their digits

What is written for a number reads as the number again. Padding with zeros in front changes
the length of what is written, not the number; zeros behind multiply it by powers of ten.

Main results: `toNat_padded`, `length_padded` and `signedInt?_signed`.
-/

set_option autoImplicit false

namespace ColumnStore.Digits

/-- There is nothing but digits. -/
def OnlyDigits (text : List Char) : Prop :=
  ∀ c ∈ text, isDigit c = true

@[simp] theorem onlyDigits_nil : OnlyDigits [] := by
  simp [OnlyDigits]

@[simp] theorem onlyDigits_cons {c : Char} {text : List Char} :
    OnlyDigits (c :: text) ↔ isDigit c = true ∧ OnlyDigits text := by
  simp [OnlyDigits]

@[simp] theorem onlyDigits_append {front back : List Char} :
    OnlyDigits (front ++ back) ↔ OnlyDigits front ∧ OnlyDigits back := by
  simp [OnlyDigits, or_imp, forall_and]

theorem onlyDigits_replicate (count : Nat) : OnlyDigits (List.replicate count '0') := by
  intro c member
  rw [List.eq_of_mem_replicate member]
  decide

theorem OnlyDigits.of_subset {part text : List Char} (only : OnlyDigits text)
    (subset : part ⊆ text) : OnlyDigits part :=
  fun c member => only c (subset member)

/-! ## What is written -/

theorem onlyDigits_ofNat (n : Nat) : OnlyDigits (ofNat n) :=
  fun _ member => Nat.isDigit_of_mem_toDigits (by decide) (by decide) member

theorem ofNat_ne_nil (n : Nat) : ofNat n ≠ [] :=
  Nat.toDigits_ne_nil

theorem onlyDigits_padded (width n : Nat) : OnlyDigits (padded width n) :=
  onlyDigits_append.2 ⟨onlyDigits_replicate _, onlyDigits_ofNat n⟩

theorem padded_ne_nil (width n : Nat) : padded width n ≠ [] := by
  simp [padded, padLeft, ofNat_ne_nil]

theorem length_padLeft (width : Nat) (text : List Char) :
    (padLeft width text).length = max width text.length := by
  simp only [padLeft, List.length_append, List.length_replicate]
  omega

/-- A number that has no more digits is padded to just the width. -/
theorem length_padded {width n : Nat} (positive : 0 < width) (fits : n < 10 ^ width) :
    (padded width n).length = width := by
  have short : (ofNat n).length ≤ width :=
    (Nat.length_toDigits_le_iff (by decide) positive).2 fits
  rw [padded, length_padLeft]
  omega

/-- A number has one digit more than its logarithm says. -/
theorem length_toDigits {n : Nat} (positive : 0 < n) :
    (Nat.toDigits 10 n).length = Nat.log 10 n + 1 := by
  have bound {k : Nat} (some_ : 0 < k) : (Nat.toDigits 10 n).length ≤ k ↔ n < 10 ^ k :=
    Nat.length_toDigits_le_iff (by decide) some_
  refine le_antisymm ((bound (Nat.succ_pos _)).2 (Nat.lt_pow_succ_log_self (by decide) n)) ?_
  by_contra short
  have longer : 0 < (Nat.toDigits 10 n).length := List.length_pos_iff.2 Nat.toDigits_ne_nil
  have less := (bound (k := Nat.log 10 n) (by omega)).1 (by omega)
  exact absurd (Nat.pow_log_le_self 10 positive.ne') (not_le.2 less)

/-! ## What is read -/

theorem foldl_append_digit (digits : List Char) (start : Nat) :
    digits.foldl (fun n c => 10 * n + value c) start =
      start * 10 ^ digits.length + toNat digits := by
  induction digits generalizing start with
  | nil => simp [toNat]
  | cons c rest ih =>
      have whole : toNat (c :: rest) = value c * 10 ^ rest.length + toNat rest := by
        rw [toNat, List.foldl_cons, ih]
        simp
      rw [List.foldl_cons, ih, whole, List.length_cons, pow_succ]
      ring

theorem toNat_append (front back : List Char) :
    toNat (front ++ back) = toNat front * 10 ^ back.length + toNat back := by
  rw [toNat, List.foldl_append, foldl_append_digit]
  rfl

theorem toNat_replicate_zero (count : Nat) : toNat (List.replicate count '0') = 0 := by
  induction count with
  | zero => rfl
  | succ count ih =>
      have zero : toNat ['0'] = 0 := by decide
      rw [List.replicate_succ, ← List.singleton_append, toNat_append, ih, zero]
      simp

theorem toNat_ofNat (n : Nat) : toNat (ofNat n) = n :=
  Nat.ofDigitChars_toDigits (by decide) (by decide)

theorem toNat_padLeft (width : Nat) (text : List Char) :
    toNat (padLeft width text) = toNat text := by
  rw [padLeft, toNat_append, toNat_replicate_zero]
  simp

/-- **A padded number reads as the number.** -/
theorem toNat_padded (width n : Nat) : toNat (padded width n) = n := by
  rw [padded, toNat_padLeft, toNat_ofNat]

theorem toNat_padRight (width : Nat) (text : List Char) :
    toNat (padRight width text) = toNat text * 10 ^ (width - text.length) := by
  rw [padRight, toNat_append, toNat_replicate_zero, List.length_replicate, Nat.add_zero]

theorem toNat?_of_onlyDigits {text : List Char} (some_ : text ≠ []) (only : OnlyDigits text) :
    toNat? text = some (toNat text) := by
  have none_other : text.any (fun c => !isDigit c) = false := by
    rw [List.any_eq_false]
    intro c member
    simp [only c member]
  rw [toNat?, List.isEmpty_eq_false_iff.2 some_, none_other]
  rfl

theorem signedInt?_of_onlyDigits {text : List Char} (some_ : text ≠ []) (only : OnlyDigits text) :
    signedInt? text = some (toNat text : Int) := by
  have read := toNat?_of_onlyDigits some_ only
  unfold signedInt?
  split
  · exact absurd (only _ List.mem_cons_self) (by decide)
  · exact absurd (only _ List.mem_cons_self) (by decide)
  · rw [read]
    rfl

theorem signed_append (negative : Bool) (front back : List Char) :
    signed negative (front ++ back) = signed negative front ++ back := by
  cases negative <;> rfl

/-- **Digits behind an optional minus sign.** -/
theorem signedInt?_signed {text : List Char} (some_ : text ≠ []) (only : OnlyDigits text)
    (negative : Bool) : signedInt? (signed negative text) =
      some (if negative then -(toNat text : Int) else toNat text) := by
  cases negative with
  | true =>
      show (toNat? text).map (fun n => -(n : Int)) = _
      rw [toNat?_of_onlyDigits some_ only]
      rfl
  | false => exact signedInt?_of_onlyDigits some_ only

end ColumnStore.Digits
