import ColumnStore.Number.Binary.Shortest
import ColumnStore.Proofs.Number.DecimalText
import ColumnStore.Proofs.Number.Exact
import Mathlib.Algebra.Order.Field.Power

/-!
# What the shortest digits stand for

The text of a finite pattern stands for a rational number as well (`Binary.written`), as a rule not
for the number of the pattern but for the one of fewest digits that reads back to it. Both lie in
the interval of the pattern, so that they are half the distance of two patterns apart at most, and
the text is never shorter in front of the point: no power of ten lies above the one and not above
the other. Seventeen grids are enough to find digits in the interval, because the step of the last
one is less than the interval is long.

Main results: `abs_written_sub_le`, `zpow_le_written` and `parse?_text`.
-/

set_option autoImplicit false

namespace ColumnStore

/-! ## Digits -/

namespace DecimalDigits

/-- The number that digits stand for. -/
def toRat (digits : DecimalDigits) : ℚ :=
  digits.coefficient * 10 ^ digits.exponent

theorem toRat_trim (limit : Nat) (digits : DecimalDigits) :
    (digits.trim limit).toRat = digits.toRat := by
  induction limit generalizing digits with
  | zero => rfl
  | succ limit ih =>
    unfold trim
    split
    · next zero =>
        have whole : (digits.coefficient : ℚ) = (digits.coefficient / 10 : ℕ) * 10 := by
          exact_mod_cast (Nat.div_mul_cancel (Nat.dvd_of_mod_eq_zero zero)).symm
        rw [ih, toRat, toRat, whole, zpow_add_one₀ (by norm_num)]
        ring
    · rfl

theorem exponent_le_trim (limit : Nat) (digits : DecimalDigits) :
    digits.exponent ≤ (digits.trim limit).exponent := by
  induction limit generalizing digits with
  | zero => exact le_rfl
  | succ limit ih =>
    unfold trim
    split
    · exact (Int.le_add_one le_rfl).trans (ih _)
    · exact le_rfl

/-- Digits with a sign are read as the number they stand for. -/
theorem exists_parseChars? {digits : DecimalDigits} (positive : 0 < digits.coefficient)
    (fits : -digits.exponent ≤ IntegerKind.int64.maximum) (negative : Bool) :
    ∃ read, Decimal.parseChars? (Digits.signed negative
        (Digits.positional (Digits.ofNat digits.coefficient) (-digits.exponent))) = some read ∧
      read.toRat = (if negative then -1 else 1) * digits.toRat := by
  obtain ⟨coefficient, exponent⟩ := digits
  cases negative with
  | false =>
    have read := @Decimal.parseChars?_positional ⟨coefficient, -exponent⟩ fits
    have natural : ¬ (coefficient : ℤ) < 0 := by omega
    simpa [natural, Decimal.toRat, toRat] using read
  | true =>
    have read := @Decimal.parseChars?_positional ⟨-coefficient, -exponent⟩ fits
    have above : 0 < coefficient := positive
    simpa [above, Decimal.toRat, toRat] using read

end DecimalDigits

namespace Binary

variable {format : BinaryFormat}

/-! ## Grids -/

section Points

variable {numerator denominator coefficient : Nat}

/-- Comparing a ratio with a point of a decimal grid without leaving the naturals. -/
theorem ratio_le_point (positive : 0 < denominator) (exponent : Int) :
    numerator * Nat.pow 10 (-exponent).toNat ≤
        coefficient * Nat.pow 10 exponent.toNat * denominator ↔
      (numerator / denominator : ℚ) ≤ coefficient * 10 ^ exponent := by
  have below : (0 : ℚ) < denominator := by exact_mod_cast positive
  have power : (0 : ℚ) < 10 ^ (-exponent).toNat := by positivity
  rw [zpow_eq_div, mul_div_assoc', div_le_div_iff₀ below power]
  simp only [Nat.pow_eq]
  exact_mod_cast Iff.rfl

theorem point_le_ratio (positive : 0 < denominator) (exponent : Int) :
    coefficient * Nat.pow 10 exponent.toNat * denominator ≤
        numerator * Nat.pow 10 (-exponent).toNat ↔
      (coefficient * 10 ^ exponent : ℚ) ≤ numerator / denominator := by
  have below : (0 : ℚ) < denominator := by exact_mod_cast positive
  have power : (0 : ℚ) < 10 ^ (-exponent).toNat := by positivity
  rw [zpow_eq_div, mul_div_assoc', div_le_div_iff₀ power below]
  simp only [Nat.pow_eq]
  exact_mod_cast Iff.rfl

end Points

namespace Interval

variable {interval : Interval} {tie : Tie} {digits : DecimalDigits} {coefficient : Nat}
  {exponent : Int}

/-- The number lies between the ends. -/
structure Proper (interval : Interval) : Prop where
  denominator_pos : 0 < interval.denominator
  lower_lt : (interval.lower / interval.denominator : ℚ) < interval.value / interval.denominator
  lt_upper : (interval.value / interval.denominator : ℚ) < interval.upper / interval.denominator

/-- The coefficient of the greatest point of a grid that is not above the number. -/
def below (interval : Interval) (exponent : Int) : Nat :=
  interval.value * Nat.pow 10 (-exponent).toNat /
    (Nat.pow 10 exponent.toNat * interval.denominator)

theorem below_eq (interval : Interval) (exponent : Int) :
    interval.value * Nat.pow 10 (-exponent).toNat /
      (Nat.pow 10 exponent.toNat * interval.denominator) = interval.below exponent :=
  rfl

theorem le_below_iff (proper : interval.Proper) :
    coefficient ≤ interval.below exponent ↔
      (coefficient * 10 ^ exponent : ℚ) ≤ interval.value / interval.denominator := by
  have unit : 0 < Nat.pow 10 exponent.toNat * interval.denominator :=
    Nat.mul_pos (Nat.pow_pos (by decide)) proper.denominator_pos
  rw [below, Nat.le_div_iff_mul_le unit, ← Nat.mul_assoc, point_le_ratio proper.denominator_pos]

/-- What is covered lies between the ends, or is one of them. -/
theorem between_of_covers (proper : interval.Proper)
    (covered : interval.covers coefficient exponent) :
    (interval.lower / interval.denominator : ℚ) ≤ coefficient * 10 ^ exponent ∧
      (coefficient * 10 ^ exponent : ℚ) ≤ interval.upper / interval.denominator := by
  rw [← ratio_le_point proper.denominator_pos, ← point_le_ratio proper.denominator_pos]
  unfold covers at covered
  split at covered
  · simpa using covered
  · simp only [Bool.and_eq_true, decide_eq_true_eq] at covered
    exact ⟨covered.1.le, covered.2.le⟩

theorem covers_of_between (proper : interval.Proper)
    (above : (interval.lower / interval.denominator : ℚ) < coefficient * 10 ^ exponent)
    (under : (coefficient * 10 ^ exponent : ℚ) < interval.upper / interval.denominator) :
    interval.covers coefficient exponent := by
  rw [← not_le, ← point_le_ratio proper.denominator_pos, not_le] at above
  rw [← not_le, ← ratio_le_point proper.denominator_pos, not_le] at under
  unfold covers
  split
  · simpa using ⟨above.le, under.le⟩
  · simpa using ⟨above, under⟩

/-- What is found on a grid is one of the two neighbours of the number, and covered. -/
theorem neighbour_of_onGrid? (found : interval.onGrid? tie exponent = some digits) :
    digits.exponent = exponent ∧ interval.covers digits.coefficient exponent ∧
      (digits.coefficient = interval.below exponent ∨
        digits.coefficient = interval.below exponent + 1) := by
  unfold onGrid? at found
  simp only [below_eq] at found
  split at found
  · next covered _ =>
      cases found
      exact ⟨rfl, covered, .inl rfl⟩
  · next _ covered =>
      cases found
      exact ⟨rfl, covered, .inr rfl⟩
  · next lower upper =>
      cases found
      exact ⟨rfl, iteInduction (motive := fun coefficient =>
        interval.covers coefficient exponent ∧ (coefficient = interval.below exponent ∨
          coefficient = interval.below exponent + 1))
        (fun _ => ⟨upper, .inr rfl⟩) (fun _ => ⟨lower, .inl rfl⟩)⟩
  · cases found

theorem not_covers_of_onGrid? (missed : interval.onGrid? tie exponent = none) :
    interval.covers (interval.below exponent) exponent = false ∧
      interval.covers (interval.below exponent + 1) exponent = false := by
  unfold onGrid? at missed
  simp only [below_eq] at missed
  split at missed
  · cases missed
  · cases missed
  · cases missed
  · next lower upper => exact ⟨lower, upper⟩

/-- A grid with a step that is less than the interval is long has a point in the interval. -/
theorem exists_onGrid? (proper : interval.Proper) (tie : Tie)
    (fine : (10 : ℚ) ^ exponent <
      interval.upper / interval.denominator - interval.lower / interval.denominator) :
    ∃ digits, interval.onGrid? tie exponent = some digits := by
  rw [← Option.ne_none_iff_exists']
  intro missed
  obtain ⟨below, above⟩ := not_covers_of_onGrid? missed
  have under : (interval.below exponent * 10 ^ exponent : ℚ) ≤
      interval.value / interval.denominator := (le_below_iff proper).1 le_rfl
  have beyond : (interval.value / interval.denominator : ℚ) <
      (interval.below exponent + 1 : ℕ) * 10 ^ exponent :=
    not_le.1 (mt (le_below_iff proper).2 (Nat.not_succ_le_self _))
  -- two neighbours that are not covered lie beyond both ends
  have left : (interval.below exponent * 10 ^ exponent : ℚ) ≤
      interval.lower / interval.denominator := by
    by_contra inside
    exact absurd (covers_of_between proper (not_le.1 inside) (under.trans_lt proper.lt_upper))
      (by simp [below])
  have right : (interval.upper / interval.denominator : ℚ) ≤
      (interval.below exponent + 1 : ℕ) * 10 ^ exponent := by
    by_contra inside
    exact absurd (covers_of_between proper (proper.lower_lt.trans beyond) (not_le.1 inside))
      (by simp [above])
  push_cast at right
  linarith

/-- The digits that come out are those of a neighbour of the number on one of the grids. -/
theorem firstGrid_neighbour (interval : Interval) (tie : Tie) (tries : Nat) (exponent : Int) :
    ∃ finer : Nat, finer ≤ tries ∧
      (interval.firstGrid tie tries exponent).exponent = exponent - finer ∧
      interval.below (exponent - finer) ≤ (interval.firstGrid tie tries exponent).coefficient := by
  induction tries generalizing exponent with
  | zero => exact ⟨0, le_rfl, by simp [firstGrid], by simp [firstGrid, below]⟩
  | succ tries ih =>
    unfold firstGrid
    split
    · next digits found =>
        obtain ⟨same, -, neighbour⟩ := neighbour_of_onGrid? found
        refine ⟨0, Nat.zero_le _, by simpa using same, ?_⟩
        rw [Nat.cast_zero, sub_zero]
        omega
    · obtain ⟨finer, bounded, same, least⟩ := ih (exponent - 1)
      have step : exponent - 1 - finer = exponent - (finer + 1 : ℕ) := by push_cast; ring
      rw [step] at same least
      exact ⟨finer + 1, Nat.succ_le_succ bounded, same, least⟩

/-- If one of the grids has a point in the interval, the digits are those of such a point. -/
theorem covers_firstGrid {tries finer : Nat} (tried : finer < tries)
    (found : ∃ digits, interval.onGrid? tie (exponent - finer) = some digits) :
    interval.covers (interval.firstGrid tie tries exponent).coefficient
      (interval.firstGrid tie tries exponent).exponent := by
  induction tries generalizing exponent finer with
  | zero => exact absurd tried (Nat.not_lt_zero _)
  | succ tries ih =>
    unfold firstGrid
    split
    · next digits here =>
        obtain ⟨same, covered, -⟩ := neighbour_of_onGrid? here
        rwa [same]
    · next missed =>
        cases finer with
        | zero =>
            rw [Nat.cast_zero, sub_zero, missed] at found
            obtain ⟨digits, found⟩ := found
            cases found
        | succ finer =>
            refine ih (Nat.lt_of_succ_lt_succ tried) ?_
            rwa [Nat.cast_succ, add_comm, ← sub_sub] at found

/-- No power of ten that the number reaches is above the digits, if the first grid is not
coarser. -/
theorem zpow_le_firstGrid (proper : interval.Proper) (tie : Tie) (tries : Nat) {leading : Int}
    (coarse : exponent ≤ leading)
    (reached : (10 : ℚ) ^ leading ≤ interval.value / interval.denominator) :
    10 ^ leading ≤ (interval.firstGrid tie tries exponent).toRat := by
  obtain ⟨finer, -, same, least⟩ := interval.firstGrid_neighbour tie tries exponent
  obtain ⟨places, far⟩ := Int.eq_ofNat_of_zero_le (a := leading - (exponent - finer)) (by omega)
  have point : (10 : ℚ) ^ leading = (10 ^ places : ℕ) * 10 ^ (exponent - finer) := by
    rw [Nat.cast_pow, Nat.cast_ofNat, ← zpow_natCast, ← far, ← zpow_add₀ (by norm_num)]
    exact congrArg _ (by ring)
  have enough : 10 ^ places ≤ (interval.firstGrid tie tries exponent).coefficient :=
    ((le_below_iff proper).2 (point ▸ reached)).trans least
  rw [DecimalDigits.toRat, same, point]
  exact mul_le_mul_of_nonneg_right (by exact_mod_cast enough) (by positivity)

end Interval

/-! ## The interval of a pattern -/

section Pattern

variable {number : Binary format}

/-- The ends of the interval and the number itself are counted in quarters of the distance to the
next pattern. -/
theorem interval_quarters {numerator : Nat} {quarters : ℚ}
    (counted : (numerator : ℚ) = quarters * (Nat.pow 2 (number.exponent - 2).toNat : ℕ)) :
    (numerator / number.interval.denominator : ℚ) = quarters * (2 ^ number.exponent / 4) := by
  have quarter : (2 : ℚ) ^ number.exponent / 4 = 2 ^ (number.exponent - 2) := by
    rw [zpow_sub₀ two_ne_zero]
    norm_num
  rw [counted, quarter, two_zpow, neg_sub, mul_div_assoc]
  simp [interval]

theorem value_interval (number : Binary format) :
    (number.interval.value / number.interval.denominator : ℚ) =
      number.significand * 2 ^ number.exponent := by
  have value : (number.interval.value : ℚ) =
      4 * number.significand * (Nat.pow 2 (number.exponent - 2).toNat : ℕ) := by
    simp [interval]
  rw [interval_quarters value]
  ring

theorem upper_interval (number : Binary format) :
    (number.interval.upper / number.interval.denominator : ℚ) =
      number.significand * 2 ^ number.exponent + 2 ^ number.exponent / 2 := by
  have upper : (number.interval.upper : ℚ) =
      (4 * number.significand + 2) * (Nat.pow 2 (number.exponent - 2).toNat : ℕ) := by
    simp [interval]
  rw [interval_quarters upper]
  ring

/-- The lower end may be half as far from a power of two. -/
theorem lower_interval (some_ : 0 < number.significand) :
    (number.interval.lower / number.interval.denominator : ℚ) =
        number.significand * 2 ^ number.exponent - 2 ^ number.exponent / 2 ∨
      number.significand = format.fractions ∧
        (number.interval.lower / number.interval.denominator : ℚ) =
          number.significand * 2 ^ number.exponent - 2 ^ number.exponent / 4 := by
  by_cases narrow : number.significand = format.fractions ∧ 2 * format.fractions ≤ number.magnitude
  · have enough : 1 ≤ 4 * number.significand := by omega
    have lower : (number.interval.lower : ℚ) =
        (4 * number.significand - 1) * (Nat.pow 2 (number.exponent - 2).toNat : ℕ) := by
      simp only [interval, if_pos narrow, Nat.cast_mul, Nat.cast_sub enough, Nat.cast_ofNat,
        Nat.cast_one]
    refine .inr ⟨narrow.1, ?_⟩
    rw [interval_quarters lower]
    ring
  · have enough : 2 ≤ 4 * number.significand := by omega
    have lower : (number.interval.lower : ℚ) =
        (4 * number.significand - 2) * (Nat.pow 2 (number.exponent - 2).toNat : ℕ) := by
      simp only [interval, if_neg narrow, Nat.cast_mul, Nat.cast_sub enough, Nat.cast_ofNat]
    left
    rw [interval_quarters lower]
    ring

theorem interval_proper (some_ : 0 < number.significand) : number.interval.Proper := by
  have spacing : (0 : ℚ) < 2 ^ number.exponent := by positivity
  refine ⟨Nat.pow_pos (by decide), ?_, ?_⟩
  · rw [value_interval]
    rcases lower_interval some_ with lower | ⟨-, lower⟩ <;> rw [lower] <;> linarith
  · rw [value_interval, upper_interval]
    linarith

/-- What the interval covers is half a distance of two patterns from the number at most. -/
theorem abs_sub_le_of_covers (some_ : 0 < number.significand) {coefficient : Nat} {exponent : Int}
    (covered : number.interval.covers coefficient exponent) :
    |(coefficient * 10 ^ exponent : ℚ) - number.significand * 2 ^ number.exponent| ≤
      2 ^ number.exponent / 2 := by
  have spacing : (0 : ℚ) < 2 ^ number.exponent := by positivity
  obtain ⟨above, under⟩ := Interval.between_of_covers (interval_proper some_) covered
  rw [upper_interval] at under
  rw [abs_sub_le_iff]
  rcases lower_interval some_ with lower | ⟨-, lower⟩ <;> rw [lower] at above <;>
    constructor <;> linarith

/-- A pattern with at most 53 significant bits is less than `10 ^ 16` times as large as its
interval is long, whether or not it is a power of two. -/
theorem lt_length_interval (precise : format.precision ≤ 53) (finite : number.isFinite)
    (some_ : 0 < number.significand) :
    (number.significand * 2 ^ number.exponent : ℚ) <
      10 ^ 16 * (number.interval.upper / number.interval.denominator -
        number.interval.lower / number.interval.denominator) := by
  have spacing : (0 : ℚ) < 2 ^ number.exponent := by positivity
  have fractions : format.fractions ≤ 2 ^ 52 :=
    Nat.pow_le_pow_right (by decide) (Nat.sub_le_of_le_add precise)
  have small := (holds_of_isFinite finite).1.small
  rw [upper_interval]
  rcases lower_interval some_ with lower | ⟨power, lower⟩ <;> rw [lower]
  · have bound : (number.significand : ℚ) ≤ 2 ^ 53 := by exact_mod_cast (by omega)
    have scaled := mul_le_mul_of_nonneg_right bound spacing.le
    linarith
  · have bound : (number.significand : ℚ) ≤ 2 ^ 52 := by exact_mod_cast power ▸ fractions
    have scaled := mul_le_mul_of_nonneg_right bound spacing.le
    linarith

/-! ## Shortest digits -/

theorem log_eq_leadingExponent {numerator denominator : Nat} (above : 0 < numerator)
    (below : 0 < denominator) :
    Int.log 10 (numerator / denominator : ℚ) = leadingExponent numerator denominator := by
  refine log_ratio (by decide) above below ?_
  rw [Digits.length_toDigits above, Digits.length_toDigits below]
  omega

/-- The search starts at the leading digit of the number. -/
theorem zpow_le_iff_le_leadingExponent (some_ : 0 < number.significand) {power : Int} :
    (10 : ℚ) ^ power ≤ number.significand * 2 ^ number.exponent ↔
      power ≤ leadingExponent number.interval.value number.interval.denominator := by
  have positive : (0 : ℚ) < number.significand * 2 ^ number.exponent := by positivity
  have value : 0 < number.interval.value :=
    Nat.mul_pos (Nat.mul_pos (by decide) some_) (Nat.pow_pos (by decide))
  rw [← log_eq_leadingExponent value (interval_proper some_).denominator_pos, value_interval]
  exact Int.zpow_le_iff_le_log (b := 10) (by decide) positive

theorem zpow_leadingExponent_le (some_ : 0 < number.significand) :
    (10 : ℚ) ^ leadingExponent number.interval.value number.interval.denominator ≤
      number.significand * 2 ^ number.exponent :=
  (zpow_le_iff_le_leadingExponent some_).2 le_rfl

/-- **The shortest digits are in the interval of their pattern.** -/
theorem abs_shortest_sub_le (precise : format.precision ≤ 53) (finite : number.isFinite)
    (some_ : 0 < number.significand) (tie : Tie) :
    |(number.shortest tie).toRat - number.significand * 2 ^ number.exponent| ≤
      2 ^ number.exponent / 2 := by
  have proper := interval_proper some_
  rw [shortest, DecimalDigits.toRat_trim]
  refine abs_sub_le_of_covers some_ (Interval.covers_firstGrid (show 16 < 17 by decide)
    (Interval.exists_onGrid? proper tie ?_))
  -- the last of the seventeen grids has sixteen digits behind the leading one
  rw [zpow_sub₀ (by norm_num), div_lt_iff₀ (by norm_num), mul_comm]
  exact (zpow_leadingExponent_le some_).trans_lt (lt_length_interval precise finite some_)

/-- Every power of ten that a number reaches is reached by its shortest digits. -/
theorem zpow_le_shortest (some_ : 0 < number.significand) (tie : Tie) {power : Int}
    (reached : (10 : ℚ) ^ power ≤ number.significand * 2 ^ number.exponent) :
    10 ^ power ≤ (number.shortest tie).toRat := by
  have leading := (zpow_le_iff_le_leadingExponent some_).1 reached
  have whole := Interval.zpow_le_firstGrid (interval_proper some_) tie 17 le_rfl
    ((zpow_leadingExponent_le some_).trans_eq (value_interval number).symm)
  rw [shortest, DecimalDigits.toRat_trim]
  exact (zpow_le_zpow_right₀ (by norm_num) leading).trans whole

theorem coefficient_shortest_pos (some_ : 0 < number.significand) (tie : Tie) :
    0 < (number.shortest tie).coefficient := by
  have positive : 0 < (number.shortest tie).toRat :=
    (zpow_pos (by norm_num) _).trans_le
      (zpow_le_shortest some_ tie (zpow_leadingExponent_le some_))
  refine Nat.pos_of_ne_zero fun none_ => ?_
  simp [DecimalDigits.toRat, none_] at positive

/-- How far behind the point the digits may be is told by the least exponent of the format. -/
theorem exponent_shortest (finite : number.isFinite) (some_ : 0 < number.significand) (tie : Tie)
    {least : Int} (negative : least ≤ 0) (bounded : least ≤ format.leastExponent) :
    least - 17 ≤ (number.shortest tie).exponent := by
  have reached : (10 : ℚ) ^ least ≤ number.significand * 2 ^ number.exponent := by
    have one : (1 : ℚ) ≤ number.significand := by exact_mod_cast some_
    obtain ⟨places, far⟩ := Int.eq_ofNat_of_zero_le (Int.neg_nonneg_of_nonpos negative)
    calc (10 : ℚ) ^ least
        ≤ 2 ^ least := by
          rw [← neg_neg least, far, zpow_neg, zpow_neg, zpow_natCast, zpow_natCast]
          exact inv_anti₀ (by positivity) (pow_le_pow_left₀ (by norm_num) (by norm_num) _)
      _ ≤ 2 ^ number.exponent :=
          zpow_le_zpow_right₀ (by norm_num) (bounded.trans (holds_of_isFinite finite).1.least_le)
      _ ≤ number.significand * 2 ^ number.exponent := le_mul_of_one_le_left (by positivity) one
  have leading := (zpow_le_iff_le_leadingExponent some_).1 reached
  obtain ⟨finer, tried, same, -⟩ := number.interval.firstGrid_neighbour tie 17
    (leadingExponent number.interval.value number.interval.denominator)
  have kept := DecimalDigits.exponent_le_trim 17 (number.interval.firstGrid tie 17
    (leadingExponent number.interval.value number.interval.denominator))
  rw [shortest]
  omega

end Pattern

/-! ## The number of the text -/

/-- The number that the text of a finite pattern stands for. -/
def written (number : Binary format) : ℚ :=
  (if number.isNegative then -1 else 1) *
    (if number.magnitude = 0 then 0 else (number.shortest .upper).toRat)

section Written

variable {number : Binary format}

theorem significand_eq_zero_iff : number.significand = 0 ↔ number.magnitude = 0 := by
  have positive := format.fractions_pos
  unfold significand
  dsimp only
  split
  · next small => rw [Nat.mod_eq_of_lt small]
  · omega

theorem abs_toRat (number : Binary format) :
    |number.toRat| = number.significand * 2 ^ number.exponent := by
  have least : (0 : ℚ) ≤ number.significand * 2 ^ number.exponent := by positivity
  rw [toRat, abs_mul, abs_of_nonneg least]
  split <;> simp

theorem abs_written (some_ : 0 < number.significand) :
    |number.written| = (number.shortest .upper).toRat := by
  have nonzero : number.magnitude ≠ 0 := mt significand_eq_zero_iff.2 some_.ne'
  have least : 0 ≤ (number.shortest .upper).toRat := by
    unfold DecimalDigits.toRat
    positivity
  rw [written, if_neg nonzero, abs_mul, abs_of_nonneg least]
  split <;> simp

/-- The text has the sign of the number. -/
theorem toRat_mul_written_nonneg (number : Binary format) : 0 ≤ number.toRat * number.written := by
  have shown : 0 ≤ if number.magnitude = 0 then 0 else (number.shortest .upper).toRat := by
    unfold DecimalDigits.toRat
    positivity
  have exact : (0 : ℚ) ≤ number.significand * 2 ^ number.exponent := by positivity
  rw [toRat, written, mul_mul_mul_comm]
  refine mul_nonneg ?_ (mul_nonneg exact shown)
  split <;> norm_num

/-- **The text is half a distance of two patterns from the number at most.** -/
theorem abs_written_sub_le (precise : format.precision ≤ 53) (finite : number.isFinite) :
    |number.written - number.toRat| ≤ 2 ^ number.exponent / 2 := by
  rcases Nat.eq_zero_or_pos number.significand with zero | some_
  · rw [written, if_pos (significand_eq_zero_iff.1 zero), toRat, zero]
    simp only [mul_zero, Nat.cast_zero, zero_mul, sub_self, abs_zero]
    positivity
  · have nonzero : number.magnitude ≠ 0 := mt significand_eq_zero_iff.2 some_.ne'
    have near := abs_shortest_sub_le precise finite some_ .upper
    rw [written, if_neg nonzero, toRat, ← mul_sub, abs_mul]
    split <;> simpa using near

/-- **Every power of ten that the number reaches is reached by the text.** -/
theorem zpow_le_written {power : Int} (reached : (10 : ℚ) ^ power ≤ |number.toRat|) :
    10 ^ power ≤ |number.written| := by
  rw [abs_toRat] at reached
  rcases Nat.eq_zero_or_pos number.significand with zero | some_
  · rw [zero, Nat.cast_zero, zero_mul] at reached
    exact absurd reached (not_le.2 (by positivity))
  · rw [abs_written some_]
    exact zpow_le_shortest some_ .upper reached

/-- **The text of a finite pattern is read as the number it stands for.** -/
theorem parse?_text (finite : number.isFinite)
    (bounded : 17 - IntegerKind.int64.maximum ≤ format.leastExponent) :
    ∃ read, Decimal.parse? number.text = some read ∧ read.toRat = number.written := by
  have limit : number.magnitude < format.infinity := of_decide_eq_true finite
  have valid : number.isNaN = false := decide_eq_false (by omega)
  have bounded_ : number.isInfinite = false := decide_eq_false (by omega)
  rw [text, if_neg (by simp [valid]), Decimal.parse?, String.toList_ofList, written]
  simp only [bounded_, Bool.false_eq_true, if_false]
  by_cases zero : number.magnitude = 0
  · have only : Digits.OnlyDigits ['0'] := Digits.onlyDigits_replicate 1
    rw [if_pos zero, if_pos zero, mul_zero, Decimal.parseChars?_whole (List.cons_ne_nil _ _) only]
    refine ⟨_, rfl, Decimal.toRat_eq_zero_iff.2 ?_⟩
    cases number.isNegative <;> decide
  · have some_ : 0 < number.significand :=
      Nat.pos_of_ne_zero (mt significand_eq_zero_iff.1 zero)
    have places := exponent_shortest finite some_ .upper (by decide) bounded
    rw [if_neg zero, if_neg zero]
    exact DecimalDigits.exists_parseChars? (coefficient_shortest_pos some_ .upper) (by omega) _

end Written

end Binary

end ColumnStore
