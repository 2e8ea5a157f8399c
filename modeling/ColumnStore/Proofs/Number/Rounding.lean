import ColumnStore.Number.Binary
import Mathlib.Data.Int.Log
import Mathlib.Data.Rat.Floor
import Mathlib.Tactic.FieldSimp
import Mathlib.Tactic.NormNum
import Mathlib.Tactic.Ring

/-!
# Rounding to floating point numbers

Two things are shown of the conversions into a binary format. None of them makes a pattern
that is no number out of a number, and a number that the format has is rounded to itself: a
ratio that is a significand times a power of two in the ranges of the format
(`BinaryFormat.Holds`) becomes the pattern with that significand and exponent. So a number of
32 bits survives the way to 64 bits and back.

Main results: `isNaN_ofRatio`, `roundRatio_exact` and `convert_double_convert_single`.
-/

set_option autoImplicit false

namespace ColumnStore

namespace BinaryFormat

theorem fractions_pos (format : BinaryFormat) : 0 < format.fractions :=
  Nat.pow_pos (by decide)

/-- Every magnitude up to infinity leaves the sign bit alone. -/
theorem infinity_lt_sign (format : BinaryFormat) (precise : 0 < format.precision) :
    format.infinity < Nat.pow 2 (format.width - 1) := by
  have exponents : 0 < Nat.pow 2 format.exponentBits := Nat.pow_pos (by decide)
  have whole : Nat.pow 2 (format.width - 1) = Nat.pow 2 format.exponentBits * format.fractions := by
    have places : format.width - 1 = format.exponentBits + (format.precision - 1) := by
      simp only [width]
      omega
    rw [places]
    exact pow_add 2 _ _
  rw [whole, infinity]
  exact Nat.mul_lt_mul_of_pos_right (by omega) format.fractions_pos

theorem sign_twice (format : BinaryFormat) (precise : 0 < format.precision) :
    2 ^ format.width = 2 * Nat.pow 2 (format.width - 1) := by
  have places : format.width = format.width - 1 + 1 := by simp only [width]; omega
  rw [places, pow_succ]
  simp [Nat.mul_comm]

/-- The magnitude with a significand and an exponent. -/
def pack (format : BinaryFormat) (significand : Nat) (exponent : Int) : Nat :=
  (exponent - format.leastExponent).toNat * format.fractions + significand

/-- The format has the number `significand * 2 ^ exponent`, in just this form. -/
structure Holds (format : BinaryFormat) (significand : Nat) (exponent : Int) : Prop where
  small : significand < 2 * format.fractions
  /-- A significand without the hidden bit has the least exponent. -/
  normal : format.fractions ≤ significand ∨ exponent = format.leastExponent
  least_le : format.leastExponent ≤ exponent
  finite : format.pack significand exponent < format.infinity

end BinaryFormat

namespace Binary

variable {format : BinaryFormat}

/-! ## Sign and magnitude -/

theorem toNat_ofMagnitude (precise : 0 < format.precision) {magnitude : Nat}
    (fits : magnitude < Nat.pow 2 (format.width - 1)) (negative : Bool) :
    (ofMagnitude negative magnitude : Binary format).bits.toNat =
      if negative then magnitude + Nat.pow 2 (format.width - 1) else magnitude := by
  have twice := format.sign_twice precise
  rw [ofMagnitude, BitVec.toNat_ofNat]
  refine Nat.mod_eq_of_lt ?_
  split <;> omega

theorem magnitude_ofMagnitude (precise : 0 < format.precision) {magnitude : Nat}
    (fits : magnitude < Nat.pow 2 (format.width - 1)) (negative : Bool) :
    (ofMagnitude negative magnitude : Binary format).magnitude = magnitude := by
  rw [Binary.magnitude, toNat_ofMagnitude precise fits]
  split
  · rw [Nat.add_mod_right, Nat.mod_eq_of_lt fits]
  · exact Nat.mod_eq_of_lt fits

theorem isNegative_ofMagnitude (precise : 0 < format.precision) {magnitude : Nat}
    (fits : magnitude < Nat.pow 2 (format.width - 1)) (negative : Bool) :
    (ofMagnitude negative magnitude : Binary format).isNegative = negative := by
  rw [isNegative, BitVec.msb_eq_decide, toNat_ofMagnitude precise fits]
  cases negative <;> simp at fits ⊢
  omega

/-- A pattern is its sign and its magnitude. -/
theorem ofMagnitude_magnitude (precise : 0 < format.precision) (number : Binary format) :
    ofMagnitude number.isNegative number.magnitude = number := by
  have twice := format.sign_twice precise
  have bounded := number.bits.isLt
  have fits : number.magnitude < Nat.pow 2 (format.width - 1) :=
    Nat.mod_lt _ (Nat.pow_pos (by decide))
  have same : (ofMagnitude number.isNegative number.magnitude : Binary format).bits =
      number.bits := by
    apply BitVec.eq_of_toNat_eq
    rw [toNat_ofMagnitude precise fits, isNegative, BitVec.msb_eq_decide, Binary.magnitude]
    generalize number.bits.toNat = bits at bounded ⊢
    change (if decide (Nat.pow 2 (format.width - 1) ≤ bits) = true then _ else _) = _
    generalize Nat.pow 2 (format.width - 1) = sign at twice ⊢
    rw [twice] at bounded
    by_cases set : sign ≤ bits
    · rw [if_pos (by simpa using set), Nat.mod_eq_sub_mod set, Nat.mod_eq_of_lt (by omega)]
      omega
    · rw [if_neg (by simpa using set), Nat.mod_eq_of_lt (by omega)]
  cases number
  exact congrArg Binary.mk same

/-! ## Conversions make numbers -/

theorem roundRatio_le_infinity (numerator denominator : Nat) :
    roundRatio format numerator denominator ≤ format.infinity := by
  unfold roundRatio
  split
  · exact Nat.zero_le _
  · exact Nat.min_le_left _ _

theorem isNaN_ofMagnitude (precise : 0 < format.precision) {magnitude : Nat}
    (bounded : magnitude ≤ format.infinity) (negative : Bool) :
    (ofMagnitude negative magnitude : Binary format).isNaN = false := by
  have fits := Nat.lt_of_le_of_lt bounded (format.infinity_lt_sign precise)
  simp only [isNaN, magnitude_ofMagnitude precise fits, decide_eq_false_iff_not]
  omega

/-- A ratio is rounded to a number. -/
theorem isNaN_ofRatio (precise : 0 < format.precision) (negative : Bool)
    (numerator denominator : Nat) :
    (ofRatio negative numerator denominator : Binary format).isNaN = false :=
  isNaN_ofMagnitude precise (roundRatio_le_infinity _ _) _

theorem isNaN_infinite (precise : 0 < format.precision) (negative : Bool) :
    (infinite negative : Binary format).isNaN = false :=
  isNaN_ofMagnitude precise le_rfl _

theorem isNaN_ofDecimal (precise : 0 < format.precision) (decimal : Decimal) :
    (ofDecimal decimal : Binary format).isNaN = false := by
  unfold ofDecimal
  dsimp only
  split_ifs
  · exact isNaN_ofMagnitude precise (Nat.zero_le _) _
  · exact isNaN_infinite precise _
  · exact isNaN_ofMagnitude precise (Nat.zero_le _) _
  · exact isNaN_ofRatio precise _ _ _

theorem isNaN_convert {target : BinaryFormat} (precise : 0 < target.precision)
    {number : Binary format} (valid : number.isNaN = false) :
    (number.convert target).isNaN = false := by
  unfold convert
  rw [if_neg (by simp [valid])]
  split
  · exact isNaN_infinite precise _
  · exact isNaN_ofRatio precise _ _ _

/-! ## Powers and logarithms -/

theorem zpow_eq_div (base : ℚ) (exponent : Int) :
    base ^ exponent = base ^ exponent.toNat / base ^ (-exponent).toNat := by
  rcases Int.le_total 0 exponent with up | down
  · have flat : (-exponent).toNat = 0 := by omega
    have whole : exponent = (exponent.toNat : Int) := by omega
    rw [flat, pow_zero, div_one, ← zpow_natCast, ← whole]
  · have flat : exponent.toNat = 0 := by omega
    have whole : exponent = -((-exponent).toNat : Int) := by omega
    rw [flat, pow_zero, one_div, ← zpow_natCast, ← zpow_neg, ← whole]

theorem two_zpow (exponent : Int) :
    (2 : ℚ) ^ exponent = 2 ^ exponent.toNat / 2 ^ (-exponent).toNat :=
  zpow_eq_div 2 exponent

section Logarithm

variable {base numerator denominator : Nat}

/-- Comparing a ratio with a power without leaving the naturals. -/
theorem zpow_le_ratio (some_ : 0 < base) (positive : 0 < denominator) (exponent : Int) :
    denominator * Nat.pow base exponent.toNat ≤ numerator * Nat.pow base (-exponent).toNat ↔
      (base : ℚ) ^ exponent ≤ numerator / denominator := by
  have below : (0 : ℚ) < denominator := by exact_mod_cast positive
  have power : (0 : ℚ) < base ^ (-exponent).toNat := by positivity
  rw [zpow_eq_div, div_le_div_iff₀ power below, mul_comm (denominator : Nat)]
  simp only [Nat.pow_eq]
  exact_mod_cast Iff.rfl

/-- The logarithms of numerator and denominator leave two candidates for the one of a ratio, and
one comparison tells which it is. -/
theorem log_ratio (large : 1 < base) (above : 0 < numerator) (below : 0 < denominator)
    {estimate : Int}
    (estimated : estimate = (Nat.log base numerator : Int) - Nat.log base denominator) :
    Int.log base (numerator / denominator : ℚ) =
      if denominator * Nat.pow base estimate.toNat ≤ numerator * Nat.pow base (-estimate).toNat
      then estimate else estimate - 1 := by
  have positive : 0 < base := Nat.zero_lt_of_lt large
  have some_ : (base : ℚ) ≠ 0 := by exact_mod_cast positive.ne'
  have ratio : (0 : ℚ) < numerator / denominator := by positivity
  have upper : (numerator / denominator : ℚ) < base ^ (estimate + 1) := by
    rw [show estimate + 1 = ((Nat.log base numerator + 1 : Nat) : Int) - Nat.log base denominator by
      push_cast; omega, zpow_sub₀ some_, zpow_natCast, zpow_natCast]
    refine div_lt_div₀ ?_ ?_ (by positivity) (by positivity)
    · exact_mod_cast Nat.lt_pow_succ_log_self large numerator
    · exact_mod_cast Nat.pow_log_le_self base below.ne'
  have lower : (base : ℚ) ^ (estimate - 1) ≤ numerator / denominator := by
    rw [show estimate - 1 =
      (Nat.log base numerator : Int) - ((Nat.log base denominator + 1 : Nat) : Int) by
      push_cast; omega, zpow_sub₀ some_, zpow_natCast, zpow_natCast]
    refine div_le_div₀ (by positivity) ?_ (by positivity) ?_
    · exact_mod_cast Nat.pow_log_le_self base above.ne'
    · exact_mod_cast (Nat.lt_pow_succ_log_self large denominator).le
  split
  · next reached =>
      have reached := (zpow_le_ratio positive below _).1 reached
      have least := (Int.zpow_le_iff_le_log large ratio).1 reached
      have greatest := (Int.lt_zpow_iff_log_lt large ratio).1 upper
      omega
  · next missed =>
      have missed := not_le.1 (mt (zpow_le_ratio positive below _).2 missed)
      have least := (Int.zpow_le_iff_le_log large ratio).1 lower
      have greatest := (Int.lt_zpow_iff_log_lt large ratio).1 missed
      omega

theorem log_eq_topExponent (above : 0 < numerator) (below : 0 < denominator) :
    Int.log 2 (numerator / denominator : ℚ) = topExponent numerator denominator :=
  log_ratio (by decide) above below (by simp only [Nat.log2_eq_log_two])

end Logarithm

/-! ## Exact rounding -/

theorem roundQuotient_mul (quotient : Nat) {denominator : Nat} (positive : 0 < denominator) :
    roundQuotient (quotient * denominator) denominator = quotient := by
  simp [roundQuotient, Nat.mul_div_cancel _ positive, positive]

theorem cross_multiply {numerator denominator significand : Nat} {exponent : Int}
    (below : 0 < denominator)
    (exact : (numerator / denominator : ℚ) = significand * 2 ^ exponent) :
    numerator * Nat.pow 2 (-exponent).toNat =
      significand * (denominator * Nat.pow 2 exponent.toNat) := by
  have positive : (denominator : ℚ) ≠ 0 := by exact_mod_cast below.ne'
  have power : (2 : ℚ) ^ (-exponent).toNat ≠ 0 := by positivity
  rw [two_zpow] at exact
  field_simp at exact
  simp only [Nat.pow_eq]
  have whole : (numerator : ℚ) * 2 ^ (-exponent).toNat =
      significand * (denominator * 2 ^ exponent.toNat) := by
    rw [exact]
    ring
  exact_mod_cast whole

/-- The exponent that rounding chooses for a number of the format is the number's own. -/
theorem max_topExponent (precise : 0 < format.precision) {numerator denominator : Nat}
    (above : 0 < numerator) (below : 0 < denominator) {significand : Nat} {exponent : Int}
    (holds : format.Holds significand exponent)
    (exact : (numerator / denominator : ℚ) = significand * 2 ^ exponent) :
    max format.leastExponent (topExponent numerator denominator + 1 - format.precision) =
      exponent := by
  have ratio : (0 : ℚ) < numerator / denominator := by positivity
  have two : ((2 : Nat) : ℚ) = 2 := by norm_num
  have power : (0 : ℚ) < 2 ^ exponent := zpow_pos two_pos _
  have fractions : (format.fractions : ℚ) = 2 ^ ((format.precision : Int) - 1) := by
    rw [show (format.precision : Int) - 1 = ((format.precision - 1 : Nat) : Int) by omega,
      zpow_natCast, BinaryFormat.fractions]
    simp
  have upper : topExponent numerator denominator < format.precision + exponent := by
    rw [← log_eq_topExponent above below]
    refine (Int.lt_zpow_iff_log_lt (by decide) ratio).1 ?_
    have small : (significand : ℚ) < 2 * format.fractions := by exact_mod_cast holds.small
    rw [exact, two, zpow_add₀ two_ne_zero,
      show (2 : ℚ) ^ (format.precision : Int) = 2 * format.fractions by
        rw [fractions, zpow_sub_one₀ two_ne_zero]; ring]
    exact mul_lt_mul_of_pos_right small power
  rcases holds.normal with normal | least
  · have lower : format.precision - 1 + exponent ≤ topExponent numerator denominator := by
      rw [← log_eq_topExponent above below]
      refine (Int.zpow_le_iff_le_log (by decide) ratio).1 ?_
      have normal : (format.fractions : ℚ) ≤ significand := by exact_mod_cast normal
      rw [exact, two, zpow_add₀ two_ne_zero, ← fractions]
      exact mul_le_mul_of_nonneg_right normal power.le
    have least_le := holds.least_le
    omega
  · omega

/-- **A number of the format is rounded to itself.** -/
theorem roundRatio_exact (precise : 0 < format.precision) {numerator denominator : Nat}
    (below : 0 < denominator) {significand : Nat} {exponent : Int}
    (holds : format.Holds significand exponent)
    (exact : (numerator / denominator : ℚ) = significand * 2 ^ exponent) :
    roundRatio format numerator denominator = format.pack significand exponent := by
  have crossed := cross_multiply below exact
  rcases Nat.eq_zero_or_pos numerator with zero | above
  · have vanished : significand = 0 := by
      rw [zero, Nat.zero_mul, eq_comm, Nat.mul_eq_zero] at crossed
      refine crossed.resolve_right (Nat.mul_ne_zero below.ne' ?_)
      exact (Nat.pow_pos (by decide)).ne'
    have least : exponent = format.leastExponent := by
      have positive := format.fractions_pos
      rcases holds.normal with normal | least
      · omega
      · exact least
    simp [roundRatio, zero, vanished, least, BinaryFormat.pack]
  · have positive : 0 < denominator * Nat.pow 2 exponent.toNat :=
      Nat.mul_pos below (Nat.pow_pos (by decide))
    unfold roundRatio
    rw [if_neg above.ne']
    simp only [max_topExponent precise above below holds exact, crossed,
      roundQuotient_mul _ positive]
    exact Nat.min_eq_right holds.finite.le

/-! ## The number a pattern stands for -/

/-- A finite pattern stands for a number in the form that the format has it in. -/
theorem holds_of_isFinite {number : Binary format} (finite : number.isFinite) :
    format.Holds number.significand number.exponent ∧
      format.pack number.significand number.exponent = number.magnitude := by
  have positive := format.fractions_pos
  have divided := Nat.div_add_mod number.magnitude format.fractions
  have bounded := Nat.mod_lt number.magnitude positive
  have packed : format.pack number.significand number.exponent = number.magnitude := by
    simp only [BinaryFormat.pack, significand, exponent, add_sub_cancel_left, Int.toNat_natCast]
    split
    · next small =>
        rw [Nat.div_eq_of_lt small, Nat.mod_eq_of_lt small]
        simp
    · next large =>
        have one : 1 ≤ number.magnitude / format.fractions :=
          (Nat.one_le_div_iff positive).2 (by omega)
        have split := Nat.succ_mul (number.magnitude / format.fractions - 1) format.fractions
        rw [Nat.succ_eq_add_one, Nat.sub_add_cancel one] at split
        rw [Nat.mul_comm] at divided
        omega
  have finite : number.magnitude < format.infinity := of_decide_eq_true finite
  refine ⟨⟨?_, ?_, ?_, packed ▸ finite⟩, packed⟩
  · simp only [significand]
    split <;> omega
  · simp only [significand, exponent]
    split
    · next small => exact .inr (by simp [Nat.div_eq_of_lt small])
    · exact .inl (by omega)
  · simp only [exponent]
    omega

/-- Unpacking a magnitude gives back what was packed into it. -/
theorem significand_exponent_of_magnitude {number : Binary format} {significand : Nat}
    {exponent : Int} (holds : format.Holds significand exponent)
    (packed : number.magnitude = format.pack significand exponent) :
    number.significand = significand ∧ number.exponent = exponent := by
  have positive := format.fractions_pos
  have least_le := holds.least_le
  have small := holds.small
  simp only [Binary.significand, Binary.exponent, packed]
  rcases Nat.lt_or_ge significand format.fractions with below | normal
  · have least : exponent = format.leastExponent := by
      rcases holds.normal with normal | least
      · omega
      · exact least
    subst least
    have plain : format.pack significand format.leastExponent = significand := by
      simp [BinaryFormat.pack]
    simp [plain, Nat.mod_eq_of_lt below, below, Nat.div_eq_of_lt below]
  · obtain ⟨fraction, rfl⟩ := Nat.exists_eq_add_of_le normal
    have inside : fraction < format.fractions := by omega
    have whole : format.pack (format.fractions + fraction) exponent =
        fraction + format.fractions * ((exponent - format.leastExponent).toNat + 1) := by
      rw [BinaryFormat.pack]
      ring
    have large : ¬ format.pack (format.fractions + fraction) exponent < format.fractions := by
      rw [whole, Nat.mul_add]
      omega
    rw [if_neg large, whole, Nat.add_mul_mod_self_left, Nat.mod_eq_of_lt inside,
      Nat.add_mul_div_left _ _ positive, Nat.div_eq_of_lt inside]
    exact ⟨rfl, by omega⟩

/-- The absolute value of a finite number as a ratio. -/
theorem numerator_div_denominator (number : Binary format) :
    (number.numerator / number.denominator : ℚ) = number.significand * 2 ^ number.exponent := by
  rw [two_zpow, numerator, denominator]
  simp only [Nat.pow_eq]
  push_cast
  ring

theorem denominator_pos (number : Binary format) : 0 < number.denominator :=
  Nat.pow_pos (by decide)

/-- A finite number is rounded to a format that has it exactly, however it is written there. -/
theorem ofRatio_exact (precise : 0 < format.precision) {source : BinaryFormat}
    {number : Binary source} {significand : Nat} {exponent : Int}
    (holds : format.Holds significand exponent)
    (exact : (number.significand * 2 ^ number.exponent : ℚ) = significand * 2 ^ exponent) :
    (ofRatio number.isNegative number.numerator number.denominator : Binary format) =
      ofMagnitude number.isNegative (format.pack significand exponent) := by
  rw [ofRatio, roundRatio_exact precise number.denominator_pos holds]
  rw [numerator_div_denominator, exact]

/-! ## From 32 bits to 64 bits and back -/

/-- The 64-bit format has every number of the 32-bit format; a significand that is too short
is shifted up to the hidden bit. -/
theorem double_holds_of_single {significand : Nat} {exponent : Int}
    (holds : BinaryFormat.single.Holds significand exponent) :
    ∃ wide low, BinaryFormat.double.Holds wide low ∧
      (significand * 2 ^ exponent : ℚ) = wide * 2 ^ low := by
  have fractions : BinaryFormat.single.fractions = 2 ^ 23 ∧
      BinaryFormat.double.fractions = 2 ^ 52 := by decide
  have least : BinaryFormat.single.leastExponent = -149 ∧
      BinaryFormat.double.leastExponent = -1074 := by decide
  have infinity : BinaryFormat.single.infinity = 255 * 2 ^ 23 ∧
      BinaryFormat.double.infinity = 2047 * 2 ^ 52 := by decide
  have small := holds.small
  have least_le := holds.least_le
  have finite := holds.finite
  rw [BinaryFormat.pack, least.1, fractions.1, infinity.1] at finite
  rw [fractions.1] at small
  rw [least.1] at least_le
  have greatest : exponent ≤ 105 := by omega
  rcases Nat.eq_zero_or_pos significand with zero | positive
  · refine ⟨0, BinaryFormat.double.leastExponent, ⟨?_, .inr rfl, le_rfl, ?_⟩, by simp [zero]⟩
    · rw [fractions.2]; decide
    · rw [BinaryFormat.pack, fractions.2, infinity.2]; simp
  · have bits : significand.log2 ≤ 23 :=
      Nat.le_of_lt_succ ((Nat.log2_lt positive.ne').2 (by omega))
    obtain ⟨shift, places⟩ : ∃ shift, significand.log2 + shift = 52 :=
      ⟨52 - significand.log2, by omega⟩
    have lower : 2 ^ 52 ≤ significand * 2 ^ shift := by
      rw [← places, pow_add]
      exact Nat.mul_le_mul_right _ (Nat.log2_self_le positive.ne')
    have upper : significand * 2 ^ shift < 2 * 2 ^ 52 := by
      rw [← places, show 2 * 2 ^ (significand.log2 + shift) =
        2 ^ (significand.log2 + 1) * 2 ^ shift by ring]
      exact Nat.mul_lt_mul_of_pos_right Nat.lt_log2_self (Nat.pow_pos (by decide))
    refine ⟨significand * 2 ^ shift, exponent - shift, ⟨?_, .inl ?_, ?_, ?_⟩, ?_⟩
    · rw [fractions.2]; exact upper
    · rw [fractions.2]; exact lower
    · rw [least.2]; omega
    · rw [BinaryFormat.pack, least.2, fractions.2, infinity.2]
      generalize significand * 2 ^ shift = wide at upper
      have shifted : (exponent - shift - -1074).toNat ≤ 1179 := by omega
      calc (exponent - shift - -1074).toNat * 2 ^ 52 + wide
          ≤ 1179 * 2 ^ 52 + wide := Nat.add_le_add_right (Nat.mul_le_mul_right _ shifted) _
        _ < 1179 * 2 ^ 52 + 2 * 2 ^ 52 := Nat.add_lt_add_left upper _
        _ < 2047 * 2 ^ 52 := by decide
    · rw [zpow_sub₀ two_ne_zero, zpow_natCast]
      push_cast
      field_simp

/-- A finite number of 32 bits is written with a significand and an exponent of 64 bits. -/
theorem exists_convert_double {number : Binary32} (finite : number.isFinite) :
    ∃ wide low, BinaryFormat.double.Holds wide low ∧
      (number.significand * 2 ^ number.exponent : ℚ) = wide * 2 ^ low ∧
      number.convert .double =
        ofMagnitude number.isNegative (BinaryFormat.double.pack wide low) := by
  obtain ⟨holds, -⟩ := holds_of_isFinite finite
  obtain ⟨wide, low, wideHolds, exact⟩ := double_holds_of_single holds
  have below : number.magnitude < BinaryFormat.single.infinity := of_decide_eq_true finite
  refine ⟨wide, low, wideHolds, exact, ?_⟩
  rw [convert, if_neg, if_neg]
  · exact ofRatio_exact (by decide) wideHolds exact
  · simp only [isInfinite, decide_eq_true_eq]
    omega
  · simp only [isNaN, decide_eq_true_eq]
    omega

/-- **A number of 32 bits is the same after it has been one of 64 bits.** -/
theorem convert_double_convert_single {number : Binary32} (valid : number.isNaN = false) :
    (number.convert .double).convert .single = number := by
  have whole := ofMagnitude_magnitude (by decide) number
  by_cases infinite : number.isInfinite
  · have limit : number.magnitude = BinaryFormat.single.infinity := of_decide_eq_true infinite
    have fits := BinaryFormat.double.infinity_lt_sign (by decide)
    have widened : number.convert .double = Binary.infinite number.isNegative := by
      simp [convert, valid, infinite]
    have still : (number.convert .double).isInfinite := by
      rw [widened, Binary.infinite]
      exact decide_eq_true (magnitude_ofMagnitude (by decide) fits _)
    have negative : (number.convert .double).isNegative = number.isNegative := by
      rw [widened]
      exact isNegative_ofMagnitude (by decide) fits _
    have stillNumber : (number.convert .double).isNaN = false := isNaN_convert (by decide) valid
    rw [convert, if_neg (by simp [stillNumber]),
      if_pos still, negative, Binary.infinite, ← limit, whole]
  · have finite : number.isFinite := by
      have notLarge : ¬ BinaryFormat.single.infinity < number.magnitude := of_decide_eq_false valid
      have notLimit : ¬ number.magnitude = BinaryFormat.single.infinity :=
        fun limit => infinite (decide_eq_true limit)
      exact decide_eq_true (by omega)
    obtain ⟨holds, packed⟩ := holds_of_isFinite finite
    obtain ⟨wide, low, wideHolds, exact, widened⟩ := exists_convert_double finite
    have fits := Nat.lt_trans wideHolds.finite (BinaryFormat.double.infinity_lt_sign (by decide))
    have magnitude := magnitude_ofMagnitude (by decide) fits number.isNegative
    have negative := isNegative_ofMagnitude (by decide) fits number.isNegative
    obtain ⟨significand, exponent⟩ := significand_exponent_of_magnitude wideHolds magnitude
    have wideFinite := wideHolds.finite
    rw [widened, convert, if_neg, if_neg, ofRatio_exact (by decide) holds, negative, packed, whole]
    · rw [significand, exponent, exact]
    · simp only [isInfinite, magnitude, decide_eq_true_eq]
      omega
    · simp only [isNaN, magnitude, decide_eq_true_eq]
      omega

end Binary

end ColumnStore
