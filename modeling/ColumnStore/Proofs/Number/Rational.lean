import ColumnStore.Number.Decimal
import Mathlib.Data.Rat.Floor
import Mathlib.Tactic.Linarith
import Mathlib.Tactic.NormNum
import Mathlib.Tactic.Positivity

/-!
# The numbers that decimals stand for

A decimal stands for a rational number (`Decimal.toRat`). Two decimals are the same number if they
stand for one (`Decimal.sameNumber_iff`), whatever their scales are, and the unscaled integer at a
scale is what is left of the number times a power of ten without its fraction
(`Decimal.unscaledAt_eq`). A decimal that is brought to a scale therefore stands for the number cut
to the places of the scale, which is the number itself only if it has no digits behind them
(`cutTo_eq_self_iff`).
-/

set_option autoImplicit false

namespace ColumnStore

/-! ## Cutting numbers -/

/-- A number without its fraction. -/
def towardZero (number : ℚ) : ℤ :=
  if 0 ≤ number then ⌊number⌋ else ⌈number⌉

/-- A number cut to so many places behind the point. -/
def cutTo (places : Nat) (number : ℚ) : ℚ :=
  towardZero (number * 10 ^ places) / 10 ^ places

@[simp]
theorem towardZero_intCast (n : ℤ) : towardZero n = n := by
  unfold towardZero
  split
  · exact Int.floor_intCast n
  · exact Int.ceil_intCast n

theorem towardZero_neg (number : ℚ) : towardZero (-number) = -towardZero number := by
  unfold towardZero
  rcases lt_trichotomy number 0 with below | rfl | above
  · rw [if_pos (by linarith), if_neg (by linarith), Int.floor_neg]
  · simp
  · rw [if_neg (by linarith), if_pos above.le, Int.ceil_neg]

theorem towardZero_mono {left right : ℚ} (order : left ≤ right) :
    towardZero left ≤ towardZero right := by
  unfold towardZero
  split_ifs with first second second
  · exact Int.floor_le_floor order
  · exact absurd (first.trans order) second
  · exact (Int.ceil_nonpos.2 (not_le.1 first).le).trans (Int.floor_nonneg.2 second)
  · exact Int.ceil_le_ceil order

/-- The fraction of a ratio is the remainder that a division drops. -/
theorem towardZero_div (numerator : ℤ) (denominator : ℕ) :
    towardZero (numerator / denominator) = numerator.tdiv denominator := by
  have upward {above : ℤ} (least : 0 ≤ above) :
      towardZero (above / denominator) = above.tdiv denominator := by
    have cast : (0 : ℚ) ≤ above := by exact_mod_cast least
    rw [towardZero, if_pos (by positivity), Rat.floor_intCast_div_natCast,
      Int.tdiv_eq_ediv_of_nonneg least]
  rcases Int.le_total 0 numerator with least | greatest
  · exact upward least
  · have opposite := upward (Int.neg_nonneg_of_nonpos greatest)
    rw [Int.cast_neg, neg_div, towardZero_neg, Int.neg_tdiv] at opposite
    exact neg_inj.1 opposite

/-- What is cut off is told by the size alone. -/
theorem le_natAbs_towardZero_iff {k : ℕ} {number : ℚ} :
    k ≤ (towardZero number).natAbs ↔ (k : ℚ) ≤ |number| := by
  have upward {above : ℚ} (least : 0 ≤ above) :
      k ≤ (towardZero above).natAbs ↔ (k : ℚ) ≤ |above| := by
    have floor := Int.floor_nonneg.2 least
    rw [towardZero, if_pos least, abs_of_nonneg least, ← Int.cast_natCast k, ← Int.le_floor]
    omega
  rcases le_total 0 number with least | greatest
  · exact upward least
  · have opposite := upward (neg_nonneg.2 greatest)
    rwa [towardZero_neg, Int.natAbs_neg, abs_neg] at opposite

/-- Two numbers of one sign are cut to the same integer if no integer lies between them that only
one of them reaches. -/
theorem towardZero_eq_iff {left right : ℚ} (alike : 0 ≤ left * right) :
    towardZero left = towardZero right ↔ ∀ k : ℕ, (k : ℚ) ≤ |left| ↔ (k : ℚ) ≤ |right| := by
  simp only [← le_natAbs_towardZero_iff]
  constructor
  · intro same k
    rw [same]
  · intro reach
    have size : (towardZero left).natAbs = (towardZero right).natAbs :=
      le_antisymm ((reach _).1 le_rfl) ((reach _).2 le_rfl)
    have natural {number : ℚ} (least : 0 ≤ number) : 0 ≤ towardZero number := by
      rw [towardZero, if_pos least]
      exact Int.floor_nonneg.2 least
    have opposite {number : ℚ} (greatest : number ≤ 0) : towardZero number ≤ 0 := by
      have least := natural (neg_nonneg.2 greatest)
      rw [towardZero_neg] at least
      omega
    rcases mul_nonneg_iff.1 alike with ⟨first, second⟩ | ⟨first, second⟩
    · have first := natural first
      have second := natural second
      omega
    · have first := opposite first
      have second := opposite second
      omega

/-- Cutting moves two numbers apart by less than one. -/
theorem abs_towardZero_sub_lt (left right : ℚ) :
    |(towardZero left - towardZero right : ℚ)| < |left - right| + 1 := by
  obtain ⟨least, greatest⟩ := abs_le.1 (le_refl |left - right|)
  unfold towardZero
  rw [abs_lt]
  split_ifs with first second second
  · constructor <;> linarith [Int.floor_le left, Int.lt_floor_add_one left, Int.floor_le right,
      Int.lt_floor_add_one right]
  · have above : (0 : ℚ) ≤ ⌊left⌋ := by exact_mod_cast Int.floor_nonneg.2 first
    have below : (⌈right⌉ : ℚ) ≤ 0 := by exact_mod_cast Int.ceil_nonpos.2 (not_le.1 second).le
    constructor <;> linarith [Int.floor_le left, Int.le_ceil right]
  · have above : (0 : ℚ) ≤ ⌊right⌋ := by exact_mod_cast Int.floor_nonneg.2 second
    have below : (⌈left⌉ : ℚ) ≤ 0 := by exact_mod_cast Int.ceil_nonpos.2 (not_le.1 first).le
    constructor <;> linarith [Int.floor_le right, Int.le_ceil left]
  · constructor <;> linarith [Int.le_ceil left, Int.ceil_lt_add_one left, Int.le_ceil right,
      Int.ceil_lt_add_one right]

/-- A number is cut without loss if it has no digits behind the places. -/
theorem cutTo_eq_self_iff {places : Nat} {number : ℚ} :
    cutTo places number = number ↔ ∃ n : ℤ, number * 10 ^ places = n := by
  have power : (10 : ℚ) ^ places ≠ 0 := by positivity
  rw [cutTo, div_eq_iff power]
  constructor
  · intro same
    exact ⟨_, same.symm⟩
  · rintro ⟨n, whole⟩
    rw [whole, towardZero_intCast]

/-! ## Decimals -/

namespace Decimal

/-- The number a decimal stands for. -/
def toRat (decimal : Decimal) : ℚ :=
  decimal.unscaled * 10 ^ (-decimal.scale)

theorem toRat_fromUnscaled (unscaled : ℤ) (scale : Nat) :
    (fromUnscaled unscaled scale).toRat = unscaled / 10 ^ scale := by
  simp [toRat, fromUnscaled, div_eq_mul_inv]

theorem shiftUp_eq (n : ℤ) (places : Nat) : shiftUp n places = n * 10 ^ places := by
  unfold shiftUp
  split
  · next zero => simp [zero]
  · simp

theorem shiftDown_eq (n : ℤ) (places : Nat) : shiftDown n places = n.tdiv (10 ^ places : ℕ) := by
  unfold shiftDown
  split
  · next zero => simp [zero]
  · rfl

/-- The number times a power of ten, as an integer or as a ratio. -/
theorem toRat_mul_zpow (decimal : Decimal) (scale : ℤ) :
    decimal.toRat * 10 ^ scale = decimal.unscaled * 10 ^ (scale - decimal.scale) := by
  rw [toRat, mul_assoc, ← zpow_add₀ (by norm_num), neg_add_eq_sub]

/-- **The unscaled integer at a scale is the number times a power of ten, without its fraction.** -/
theorem unscaledAt_eq (decimal : Decimal) (scale : ℤ) :
    decimal.unscaledAt scale = towardZero (decimal.toRat * 10 ^ scale) := by
  rw [toRat_mul_zpow]
  unfold unscaledAt
  split
  · next up =>
      obtain ⟨places, far⟩ := Int.eq_ofNat_of_zero_le (Int.sub_nonneg_of_le up)
      rw [far, Int.toNat_natCast, zpow_natCast, shiftUp_eq]
      exact_mod_cast (towardZero_intCast _).symm
  · next down =>
      obtain ⟨places, far⟩ := Int.eq_ofNat_of_zero_le (a := decimal.scale - scale) (by omega)
      rw [far, ← neg_sub, far, Int.toNat_natCast, zpow_neg, zpow_natCast, ← div_eq_mul_inv,
        shiftDown_eq, ← towardZero_div]
      push_cast
      rfl

theorem toUnscaled?_eq_some {decimal : Decimal} {scale : Nat}
    {unscaled : IntegerKind.int128.Number} : decimal.toUnscaled? scale = some unscaled ↔
      unscaled.val = towardZero (decimal.toRat * 10 ^ scale) := by
  rw [toUnscaled?, IntegerKind.ofInt?_eq_some, unscaledAt_eq, zpow_natCast]

/-- The integer at a scale is told by the number alone. -/
theorem toUnscaled?_congr {left right : Decimal} (same : left.toRat = right.toRat) (scale : Nat) :
    left.toUnscaled? scale = right.toUnscaled? scale := by
  rw [toUnscaled?, toUnscaled?, unscaledAt_eq, unscaledAt_eq, same]

/-- At a scale that is not less than its own a decimal loses nothing. -/
theorem unscaledAt_of_le {decimal : Decimal} {scale : ℤ} (up : decimal.scale ≤ scale) :
    (decimal.unscaledAt scale : ℚ) = decimal.toRat * 10 ^ scale := by
  obtain ⟨places, far⟩ := Int.eq_ofNat_of_zero_le (Int.sub_nonneg_of_le up)
  rw [toRat_mul_zpow, unscaledAt, if_pos up, far, Int.toNat_natCast, shiftUp_eq, zpow_natCast]
  push_cast
  rfl

/-- The number times the power of ten of its own scale. -/
theorem unscaled_eq (decimal : Decimal) :
    (decimal.unscaled : ℚ) = decimal.toRat * 10 ^ decimal.scale := by
  rw [toRat_mul_zpow, sub_self, zpow_zero, mul_one]

theorem toRat_eq_zero_iff {decimal : Decimal} : decimal.toRat = 0 ↔ decimal.unscaled = 0 := by
  have power : (10 : ℚ) ^ (-decimal.scale) ≠ 0 := zpow_ne_zero _ (by norm_num)
  rw [toRat, mul_eq_zero, or_iff_left power, Int.cast_eq_zero]

/-- **Two decimals are the same number if they stand for the same number.** -/
theorem sameNumber_iff {left right : Decimal} :
    left.sameNumber right ↔ left.toRat = right.toRat := by
  have scaled {scale : ℤ} : left.toRat * 10 ^ scale = right.toRat * 10 ^ scale ↔
      left.toRat = right.toRat := mul_left_inj' (zpow_ne_zero scale (by norm_num))
  unfold sameNumber
  split
  · next zero =>
      rw [decide_eq_true_iff]
      rcases zero with zero | zero
      · rw [toRat_eq_zero_iff.2 zero, zero]
        exact eq_comm.trans (toRat_eq_zero_iff.symm.trans eq_comm)
      · rw [toRat_eq_zero_iff.2 zero, zero]
        exact toRat_eq_zero_iff.symm
  · split
    · next up =>
        rw [decide_eq_true_iff, ← scaled, ← unscaledAt_of_le up, ← right.unscaled_eq, Int.cast_inj]
    · next down =>
        have up : right.scale ≤ left.scale := by omega
        rw [decide_eq_true_iff, ← scaled, ← unscaledAt_of_le up, ← left.unscaled_eq, Int.cast_inj]

/-- What is made of the integer at a scale stands for the number cut to the places of the scale. -/
theorem toRat_unscaledAt (decimal : Decimal) (scale : Nat) :
    (fromUnscaled (decimal.unscaledAt scale) scale).toRat = cutTo scale decimal.toRat := by
  rw [toRat_fromUnscaled, unscaledAt_eq, zpow_natCast, cutTo]

end Decimal

end ColumnStore
