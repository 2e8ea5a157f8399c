import ColumnStore.Proofs.Number.Rational

/-!
# Decimals as integers of a column

A decimal column stores a decimal as an integer of 128 bits at the scale of the column. This
integer is the number times a power of ten without its fraction: digits behind the scale are
dropped, and a number whose integer needs more bits has none. Neither depends on the scale that
the decimal itself is written with, and the integer of a larger number is not smaller.

Main result: `Decimal.toUnscaled?_truncates`.
-/

set_option autoImplicit false

namespace ColumnStore

/-- Integers of 128 bits are those of two's complement. -/
theorem IntegerKind.ofInt?_int128_eq_none {n : ℤ} :
    int128.ofInt? n = none ↔ ¬ (-2 ^ 127 ≤ n ∧ n < 2 ^ 127) := by
  have least : int128.minimum = -2 ^ 127 := by decide
  have greatest : int128.maximum = 2 ^ 127 - 1 := by decide
  rw [ofInt?_eq_none, least, greatest]
  omega

namespace Decimal

variable {number left right : Decimal} {scale : Nat}

theorem toUnscaled?_eq_none : number.toUnscaled? scale = none ↔
    ¬ (-2 ^ 127 ≤ towardZero (number.toRat * 10 ^ scale) ∧
      towardZero (number.toRat * 10 ^ scale) < 2 ^ 127) := by
  rw [toUnscaled?, IntegerKind.ofInt?_int128_eq_none, unscaledAt_eq, zpow_natCast]

theorem toUnscaled?_mono {lesser greater : IntegerKind.int128.Number}
    (order : left.toRat ≤ right.toRat) (first : left.toUnscaled? scale = some lesser)
    (second : right.toUnscaled? scale = some greater) : lesser.val ≤ greater.val := by
  rw [toUnscaled?_eq_some.1 first, toUnscaled?_eq_some.1 second]
  have power : (0 : ℚ) ≤ 10 ^ scale := by positivity
  exact towardZero_mono (mul_le_mul_of_nonneg_right order power)

/-- **The integer of a decimal at a scale is its number times a power of ten, cut toward zero**,
if that has 128 bits; else there is none. So the integer of a cell is found again, a greater number
has no smaller integer, and decimals that are the same number have the same one. -/
theorem toUnscaled?_truncates (scale : Nat) :
    (∀ (number : Decimal) (n : ℤ), (number.toUnscaled? scale).map (·.val) = some n ↔
        n = towardZero (number.toRat * 10 ^ scale) ∧ -2 ^ 127 ≤ n ∧ n < 2 ^ 127) ∧
      (∀ number : Decimal, number.toUnscaled? scale = none ↔
        ¬ (-2 ^ 127 ≤ towardZero (number.toRat * 10 ^ scale) ∧
          towardZero (number.toRat * 10 ^ scale) < 2 ^ 127)) ∧
      (∀ unscaled : IntegerKind.int128.Number,
        (fromUnscaled unscaled.val scale).toUnscaled? scale = some unscaled) ∧
      (∀ (left right : Decimal) (lesser greater : IntegerKind.int128.Number),
        left.toRat ≤ right.toRat → left.toUnscaled? scale = some lesser →
          right.toUnscaled? scale = some greater → lesser.val ≤ greater.val) ∧
      ∀ left right : Decimal, left.sameNumber right →
        left.toUnscaled? scale = right.toUnscaled? scale := by
  refine ⟨fun number n => ?_, fun number => toUnscaled?_eq_none,
    fun unscaled => toUnscaled?_fromUnscaled unscaled scale,
    fun left right lesser greater => toUnscaled?_mono,
    fun left right same => toUnscaled?_congr (sameNumber_iff.1 same) scale⟩
  rw [Option.map_eq_some_iff]
  constructor
  · rintro ⟨unscaled, found, rfl⟩
    have cut := toUnscaled?_eq_some.1 found
    have fits : number.toUnscaled? scale ≠ none := by simp [found]
    rw [ne_eq, toUnscaled?_eq_none, not_not, ← cut] at fits
    exact ⟨cut, fits⟩
  · rintro ⟨rfl, fits⟩
    obtain ⟨unscaled, found⟩ :=
      Option.ne_none_iff_exists'.1 (mt toUnscaled?_eq_none.1 (not_not.2 fits))
    exact ⟨unscaled, found, toUnscaled?_eq_some.1 found⟩

/-- Digits behind the scale are dropped from numbers below zero too, the least integer is found
again, and zeros at the end of a decimal do not matter. -/
theorem toUnscaled?_truncates_below_zero :
    (-199 : ℤ) = towardZero ((⟨-1999, 3⟩ : Decimal).toRat * 10 ^ 2) ∧
      (fromUnscaled (-2 ^ 127) 2).toUnscaled? 2 = some IntegerKind.int128.sentinel ∧
      (-199 : ℤ) ≤ -150 ∧
      (⟨-15, 1⟩ : Decimal).toUnscaled? 2 = (⟨-1500, 3⟩ : Decimal).toUnscaled? 2 := by
  obtain ⟨cut, -, again, order, alike⟩ := toUnscaled?_truncates 2
  refine ⟨((cut ⟨-1999, 3⟩ (-199)).1 (by decide)).1, again IntegerKind.int128.sentinel,
    order ⟨-1999, 3⟩ ⟨-15, 1⟩ ⟨-199, by decide⟩ ⟨-150, by decide⟩ ?_ (by decide) (by decide),
    alike _ _ (by decide)⟩
  norm_num [toRat]

end Decimal

end ColumnStore
