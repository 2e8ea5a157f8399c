import ColumnStore.Proofs.Number.Shortest
import ColumnStore.Proofs.Sql.Coercion
import ColumnStore.Proofs.Sql.IntegerConversion

/-!
# Floating point numbers as decimals of a scale

A decimal column and a decimal parameter both cut a floating point number to their scale, but not
the same number: the column cuts the number of the pattern, and the parameter the one that its text
stands for (`Value.Approximates`). The two are half the distance of two patterns apart at most, so
what comes of them is hardly further apart, and differs just if a multiple of the last place lies
between them. Such amounts are common: the number of 64 bits that is written 0.29 is a little less.

Of what a parameter takes within the digits of the column the column refuses nothing, since the text
is not shorter in front of the point than the number is.

Main results: `DeclaredType.float_conversions_compare` and `DeclaredType.exists_cent_lost`.
-/

set_option autoImplicit false

namespace ColumnStore

/-- The finite floating point number of a value: the number of its pattern, the number its text
stands for, and the distance to the next pattern. -/
inductive Value.Approximates : Value → ℚ → ℚ → ℚ → Prop
  | float (number : Binary32) (finite : number.isFinite) :
      Approximates (.float number) number.toRat number.written (2 ^ number.exponent)
  | double (number : Binary64) (finite : number.isFinite) :
      Approximates (.double number) number.toRat number.written (2 ^ number.exponent)

namespace Value.Approximates

variable {value : Value} {exact written spacing : ℚ}

theorem near (approximates : value.Approximates exact written spacing) :
    |written - exact| ≤ spacing / 2 := by
  cases approximates with
  | float number finite => exact Binary.abs_written_sub_le (by decide) finite
  | double number finite => exact Binary.abs_written_sub_le (by decide) finite

theorem alike (approximates : value.Approximates exact written spacing) : 0 ≤ exact * written := by
  cases approximates with
  | float number => exact number.toRat_mul_written_nonneg
  | double number => exact number.toRat_mul_written_nonneg

/-- The text is not shorter in front of the point. -/
theorem zpow_le (approximates : value.Approximates exact written spacing) {power : ℤ}
    (reached : (10 : ℚ) ^ power ≤ |exact|) : 10 ^ power ≤ |written| := by
  cases approximates with
  | float number => exact Binary.zpow_le_written reached
  | double number => exact Binary.zpow_le_written reached

/-- A parameter takes the number that the text stands for. -/
theorem exists_written (approximates : value.Approximates exact written spacing) :
    ∃ number, Parameter.toDecimal? value = some number ∧ number.toRat = written := by
  cases approximates with
  | float number finite => exact Binary.parse?_text finite (by decide)
  | double number finite => exact Binary.parse?_text finite (by decide)

/-- A column takes the number of the pattern. -/
theorem exists_exact (approximates : value.Approximates exact written spacing) :
    ∃ number, Coercion.toDecimal value = .ok number ∧ number.toRat = exact := by
  cases approximates with
  | float number finite =>
      obtain ⟨decimal, told, same⟩ := Binary.toDecimal?_of_isFinite finite
      exact ⟨decimal, by rw [Coercion.toDecimal, told]; rfl, same⟩
  | double number finite =>
      obtain ⟨decimal, told, same⟩ := Binary.toDecimal?_of_isFinite finite
      exact ⟨decimal, by rw [Coercion.toDecimal, told]; rfl, same⟩

theorem isNull_eq_false (approximates : value.Approximates exact written spacing) :
    value.isNull = false := by
  cases approximates <;> rfl

/-- If what is left of the text has so many digits, what is left of the number has no more. -/
theorem natAbs_lt (approximates : value.Approximates exact written spacing) {digits scale : ℕ}
    (short : (towardZero (written * 10 ^ scale)).natAbs < 10 ^ digits) :
    (towardZero (exact * 10 ^ scale)).natAbs < 10 ^ digits := by
  have power : (0 : ℚ) < 10 ^ scale := by positivity
  have reaches {number : ℚ} : 10 ^ digits ≤ (towardZero (number * 10 ^ scale)).natAbs ↔
      (10 : ℚ) ^ ((digits : ℤ) - scale) ≤ |number| := by
    rw [le_natAbs_towardZero_iff, abs_mul, abs_of_pos power, zpow_sub₀ (by norm_num),
      zpow_natCast, zpow_natCast, div_le_iff₀ power]
    push_cast
    exact Iff.rfl
  rw [← not_le, reaches] at short ⊢
  exact mt approximates.zpow_le short

end Value.Approximates

/-! ## The two conversions -/

section Conversions

variable {digits scale : ℕ} {value : Value} {exact written spacing : ℚ}

/-- A parameter of a decimal type is bound to the integer that is found, if its storage has it. -/
theorem Parameter.toDatum_decimal {valid : 0 < digits ∧ scale ≤ digits ∧ digits ≤ 38}
    {n : (DeclaredType.decimalStorage digits).Number} :
    toDatum (DeclaredType.decimal digits scale valid).storage
        (DeclaredType.decimal digits scale valid).scale value =
          .ok (.fixed (.integer (DeclaredType.decimalStorage digits)) n) ↔
      toInteger? scale value = some n.val := by
  refine toIntegerDatum_eq_ok.trans ⟨?_, fun found => ⟨n, found, rfl⟩⟩
  rintro ⟨other, found, same⟩
  cases same
  exact found

/-- With a scale that is the number of the text, cut to the scale. -/
theorem Parameter.toInteger?_of_approximates {n : ℤ}
    (approximates : value.Approximates exact written spacing) (places : 0 < scale)
    (found : toInteger? scale value = some n) : n = towardZero (written * 10 ^ scale) := by
  obtain ⟨number, read, shown⟩ := approximates.exists_written
  unfold toInteger? at found
  rw [if_pos places.ne', read, Option.bind_some, Option.map_eq_some_iff] at found
  obtain ⟨unscaled, cut, same⟩ := found
  rw [← same, Decimal.toUnscaled?_eq_some.1 cut, shown]

/-- A column stores the number of the pattern, cut to its scale. -/
theorem DeclaredType.coerce_of_approximates {valid : 0 < digits ∧ scale ≤ digits ∧ digits ≤ 38}
    (approximates : value.Approximates exact written spacing)
    (short : (towardZero (exact * 10 ^ scale)).natAbs < 10 ^ digits) :
    (DeclaredType.decimal digits scale valid).coerce value =
      .ok (.decimal (Decimal.fromUnscaled (towardZero (exact * 10 ^ scale)) scale)) := by
  obtain ⟨number, read, same⟩ := approximates.exists_exact
  have limit : 10 ^ digits ≤ 10 ^ 38 := Nat.pow_le_pow_right (by decide) valid.2.2
  have wide : (10 ^ 38 : ℤ) ≤ IntegerKind.int128.maximum ∧
      IntegerKind.int128.minimum ≤ -(10 ^ 38 : ℤ) := by decide
  have fits : IntegerKind.int128.minimum ≤ towardZero (exact * 10 ^ scale) ∧
      towardZero (exact * 10 ^ scale) ≤ IntegerKind.int128.maximum := by
    generalize towardZero (exact * 10 ^ scale) = unscaled at short ⊢
    omega
  rw [coerce, if_neg (by simp [approximates.isNull_eq_false])]
  exact Coercion.coerceDecimal_eq_ok.2 ⟨number, ⟨towardZero (exact * 10 ^ scale), fits⟩, read,
    Decimal.toUnscaled?_eq_some.2 (by rw [same]), short, rfl⟩

/-- **What a decimal column makes of a floating point number that a parameter of its type takes.**
It stores a decimal, with what is left of the number of the pattern at the scale, while the
parameter is bound to what is left of the number its text stands for. -/
theorem DeclaredType.float_conversions_compare
    {valid : 0 < digits ∧ scale ≤ digits ∧ digits ≤ 38} {n : (decimalStorage digits).Number}
    (approximates : value.Approximates exact written spacing) (places : 0 < scale)
    (bound : Parameter.toDatum (decimal digits scale valid).storage
      (decimal digits scale valid).scale value = .ok (.fixed (.integer (decimalStorage digits)) n))
    (short : n.val.natAbs < 10 ^ digits) :
    ∃ m : ℤ,
      (decimal digits scale valid).coerce value = .ok (.decimal (Decimal.fromUnscaled m scale)) ∧
      m = towardZero (exact * 10 ^ scale) ∧ n.val = towardZero (written * 10 ^ scale) ∧
      |written - exact| ≤ spacing / 2 ∧ (|m - n.val| : ℚ) < spacing / 2 * 10 ^ scale + 1 ∧
      (m = n.val ↔ ∀ k : ℕ, k / 10 ^ scale ≤ |exact| ↔ k / 10 ^ scale ≤ |written|) := by
  have power : (0 : ℚ) < 10 ^ scale := by positivity
  have near := approximates.near
  have cut : n.val = towardZero (written * 10 ^ scale) :=
    Parameter.toInteger?_of_approximates approximates places (Parameter.toDatum_decimal.1 bound)
  rw [cut] at short ⊢
  refine ⟨_, coerce_of_approximates approximates (approximates.natAbs_lt short), rfl, rfl, near,
    ?_, ?_⟩
  · calc (|towardZero (exact * 10 ^ scale) - towardZero (written * 10 ^ scale)| : ℚ)
        < |exact * 10 ^ scale - written * 10 ^ scale| + 1 := abs_towardZero_sub_lt _ _
      _ = |written - exact| * 10 ^ scale + 1 := by
          rw [← sub_mul, abs_mul, abs_of_pos power, abs_sub_comm]
      _ ≤ spacing / 2 * 10 ^ scale + 1 := by gcongr
  · rw [towardZero_eq_iff]
    · simp only [abs_mul, abs_of_pos power, div_le_iff₀ power]
    · rw [mul_mul_mul_comm]
      exact mul_nonneg approximates.alike (by positivity)

/-- The number of 64 bits that is written 0.07 is a little more, and is bound and stored as seven
hundredths. -/
theorem DeclaredType.float_conversions_cents :
    Parameter.toDatum (decimal 5 2 (by decide)).storage (decimal 5 2 (by decide)).scale
        (.double ⟨0x3fb1eb851eb851ec⟩) =
          .ok (.fixed (.integer (decimalStorage 5)) ⟨7, by decide⟩) ∧
      (decimal 5 2 (by decide)).coerce (.double ⟨0x3fb1eb851eb851ec⟩) = .ok (.decimal ⟨7, 2⟩) := by
  have approximates := Value.Approximates.double ⟨0x3fb1eb851eb851ec⟩ (by decide)
  have bound : Parameter.toDatum (decimal 5 2 (by decide)).storage (decimal 5 2 (by decide)).scale
      (.double ⟨0x3fb1eb851eb851ec⟩) =
        .ok (.fixed (.integer (decimalStorage 5)) ⟨7, by decide⟩) :=
    Parameter.toDatum_decimal.2 (by decide +kernel)
  obtain ⟨m, stored, cut, -⟩ :=
    float_conversions_compare approximates (by decide) bound (by decide)
  have significand : (⟨0x3fb1eb851eb851ec⟩ : Binary64).significand = 5044031582654956 := by decide
  have exponent : (⟨0x3fb1eb851eb851ec⟩ : Binary64).exponent = -56 := by decide
  have negative : (⟨0x3fb1eb851eb851ec⟩ : Binary64).isNegative = false := by decide
  have seven : m = 7 := by
    rw [cut, Binary.toRat, significand, exponent, negative, towardZero, if_pos (by norm_num),
      Int.floor_eq_iff]
    norm_num
  exact ⟨bound, seven ▸ stored⟩

/-- **A cent is lost.** The number of 64 bits that is nearest to 0.29 is bound to a parameter of a
decimal type with two places as 29 hundredths, and stored in a column of this type as 0.28. -/
theorem DeclaredType.exists_cent_lost :
    ∃ number : Binary64, number.isFinite ∧ number.text = "0.29" ∧
      Parameter.toDatum (decimal 5 2 (by decide)).storage (decimal 5 2 (by decide)).scale
          (.double number) = .ok (.fixed (.integer (decimalStorage 5)) ⟨29, by decide⟩) ∧
      (decimal 5 2 (by decide)).coerce (.double number) = .ok (.decimal ⟨28, 2⟩) :=
  ⟨⟨0x3fd28f5c28f5c28f⟩, by decide, by decide +kernel,
    Parameter.toDatum_decimal.2 (by decide +kernel), by decide +kernel⟩

end Conversions

end ColumnStore
