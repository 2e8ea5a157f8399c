import ColumnStore.Proofs.Number.Rational
import ColumnStore.Proofs.Number.Rounding

/-!
# Floating point numbers as decimals

A finite pattern stands for a rational number (`Binary.toRat`). Two is a factor of ten, so the
number can be written with finitely many digits, and `Binary.toDecimal?` writes it without losing
any: the decimal of a finite pattern stands for the very number of the pattern, and only a pattern
that is no finite number has no decimal. A pattern of 32 bits is first made one of 64 bits, which
keeps the number as well.

Main results: `toDecimal?_of_isFinite`, `isFinite_convert_double` and `toRat_convert_double`.
-/

set_option autoImplicit false

namespace ColumnStore

namespace Binary

variable {format : BinaryFormat}

/-- The number a finite pattern stands for. -/
def toRat (number : Binary format) : ℚ :=
  (if number.isNegative then -1 else 1) * (number.significand * 2 ^ number.exponent)

/-! ## The decimal of a pattern -/

theorem twos_le (limit n : Nat) : twos limit n ≤ limit := by
  induction limit generalizing n with
  | zero => exact Nat.le_refl 0
  | succ limit ih =>
    unfold twos
    split
    · exact Nat.succ_le_succ (ih _)
    · exact Nat.zero_le _

theorem two_pow_twos_dvd (limit n : Nat) : 2 ^ twos limit n ∣ n := by
  induction limit generalizing n with
  | zero => exact one_dvd n
  | succ limit ih =>
    unfold twos
    split
    · next even =>
        have halved : n / 2 * 2 = n := Nat.div_mul_cancel (Nat.dvd_of_mod_eq_zero even)
        have doubled := Nat.mul_dvd_mul_right (ih (n / 2)) 2
        rwa [halved, ← pow_succ] at doubled
    · exact one_dvd n

theorem toDecimal?_of_not_finite {number : Binary format} (endless : number.isFinite = false) :
    number.toDecimal? = none := by
  simp [toDecimal?, endless]

/-- **The decimal of a finite pattern stands for the number of the pattern.** -/
theorem toDecimal?_of_isFinite {number : Binary format} (finite : number.isFinite) :
    ∃ decimal, number.toDecimal? = some decimal ∧ decimal.toRat = number.toRat := by
  by_cases vanished : number.significand = 0
  · refine ⟨⟨0, 0⟩, by simp [toDecimal?, finite, vanished], ?_⟩
    simp [Decimal.toRat, toRat, vanished]
  · refine ⟨_, by rw [toDecimal?, if_neg (by simp [finite]), if_neg vanished], ?_⟩
    -- the factors of two that the significand has are places that the decimal does without
    obtain ⟨odd, whole⟩ := two_pow_twos_dvd (-number.exponent).toNat number.significand
    obtain ⟨places, split⟩ :=
      Nat.exists_eq_add_of_le (twos_le (-number.exponent).toNat number.significand)
    generalize twos (-number.exponent).toNat number.significand = spare at whole split ⊢
    have quotient : number.significand / Nat.pow 2 spare = odd := by
      rw [whole]
      exact Nat.mul_div_cancel_left odd (Nat.pow_pos (by decide))
    have rest : (-number.exponent).toNat - spare = places := by omega
    simp only [quotient, rest]
    rw [Decimal.toRat, toRat, two_zpow, split, whole, zpow_neg, zpow_natCast]
    have ten : (10 : ℚ) ^ places = 5 ^ places * 2 ^ places := by
      rw [← mul_pow]
      norm_num
    rw [ten]
    push_cast [Nat.pow_eq]
    rw [pow_add]
    field_simp

example : (⟨0x3dcccccd⟩ : Binary32).toDecimal? = some ⟨100000001490116119384765625, 27⟩ := by
  decide

/-! ## Widening to 64 bits -/

theorem isFinite_nan : (nan : Binary64).isFinite = false := by
  decide

theorem isFinite_infinite (precise : 0 < format.precision) (negative : Bool) :
    (infinite negative : Binary format).isFinite = false := by
  have fits := format.infinity_lt_sign precise
  simp [isFinite, infinite, magnitude_ofMagnitude precise fits]

/-- A pattern of 32 bits is a finite number if it is one with 64 bits. -/
theorem isFinite_convert_double (number : Binary32) :
    (number.convert .double).isFinite = number.isFinite := by
  cases finite : number.isFinite with
  | false =>
    unfold convert
    split
    · exact isFinite_nan
    · next valid =>
        have limit : number.isInfinite = true := by
          simp only [isFinite, isNaN, decide_eq_true_eq, decide_eq_false_iff_not] at finite valid
          exact decide_eq_true (by omega)
        rw [if_pos limit]
        exact isFinite_infinite (by decide) _
  | true =>
    obtain ⟨wide, low, holds, -, widened⟩ := exists_convert_double finite
    have fits := Nat.lt_trans holds.finite (BinaryFormat.double.infinity_lt_sign (by decide))
    rw [widened, isFinite, magnitude_ofMagnitude (by decide) fits]
    exact decide_eq_true holds.finite

/-- **Widening a finite number to 64 bits keeps the number.** -/
theorem toRat_convert_double {number : Binary32} (finite : number.isFinite) :
    (number.convert .double).toRat = number.toRat := by
  obtain ⟨wide, low, holds, exact, widened⟩ := exists_convert_double finite
  have fits := Nat.lt_trans holds.finite (BinaryFormat.double.infinity_lt_sign (by decide))
  have magnitude := magnitude_ofMagnitude (by decide) fits number.isNegative
  obtain ⟨significand, exponent⟩ := significand_exponent_of_magnitude holds magnitude
  rw [toRat, toRat, widened, isNegative_ofMagnitude (by decide) fits, significand, exponent, exact]

end Binary

end ColumnStore
