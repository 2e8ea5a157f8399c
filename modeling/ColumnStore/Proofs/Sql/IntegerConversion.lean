import ColumnStore.Client.Parameter
import ColumnStore.Proofs.Number.Rational
import ColumnStore.Sql.Coercion
import ColumnStore.Sql.DeclaredType

/-!
# Values as integers

An integer column and an integer parameter take a value if it denotes an integer of their kind: a
truth value denotes zero or one, and a decimal the number it stands for, if that is an integer
(`Value.Denotes`). Both conversions look for the integer among those of 128 bits first and narrow it
afterwards. Every kind lies within 128 bits, so nothing is lost by that
(`Value.toInteger?_eq_some`), and the two agree (`DeclaredType.integer_conversions_agree`).
-/

set_option autoImplicit false

namespace ColumnStore

/-- The integer that a value denotes. -/
inductive Value.Denotes : Value → ℤ → Prop
  | bool (truth : Bool) : Denotes (.bool truth) (if truth then 1 else 0)
  | integer (kind : IntegerKind) (number : kind.Number) :
      Denotes (.integer kind number) number.val
  | decimal (number : Decimal) (n : ℤ) (whole : number.toRat = n) : Denotes (.decimal number) n

/-- A decimal that stands for an integer stands for no other one, whatever its scale. -/
theorem Decimal.toInteger?_eq_some {decimal : Decimal} {n : IntegerKind.int128.Number} :
    decimal.toInteger? = some n ↔ decimal.toRat = n.val := by
  have plain : (fromUnscaled n.val 0).toRat = n.val := by
    rw [toRat_fromUnscaled, pow_zero, div_one]
  rw [toInteger?, Option.filter_eq_some_iff, toUnscaled?_eq_some, sameNumber_iff, plain]
  constructor
  · rintro ⟨-, same⟩
    exact same.symm
  · intro whole
    refine ⟨?_, whole.symm⟩
    rw [whole, pow_zero, mul_one, towardZero_intCast]

namespace Value

variable {value : Value}

/-- **The search among the integers of 128 bits finds an integer of a kind if the value denotes
it.** -/
theorem toInteger?_eq_some {kind : IntegerKind} {n : kind.Number} :
    Coercion.toInteger? value = some n.val ↔ value.Denotes n.val := by
  constructor
  · intro found
    cases value with
    | bool truth =>
        rw [← Option.some.inj found]
        exact .bool truth
    | integer other number =>
        rw [← Option.some.inj found]
        exact .integer other number
    | decimal number =>
        obtain ⟨wide, whole, same⟩ := Option.map_eq_some_iff.1 found
        rw [← same]
        exact .decimal number wide.val (Decimal.toInteger?_eq_some.1 whole)
    | _ => cases found
  · intro denotes
    obtain ⟨n, fits⟩ := n
    have wide := kind.within_int128
    change value.Denotes n at denotes
    cases denotes with
    | bool truth => rfl
    | integer other number => rfl
    | decimal number n whole =>
        have found : number.toInteger? = some ⟨n, by omega⟩ := Decimal.toInteger?_eq_some.2 whole
        exact congrArg (Option.map Subtype.val) found

end Value

/-! ## The two conversions -/

section Conversions

variable {kind : IntegerKind} {value : Value}

/-- A column stores the integer that is denoted. -/
theorem Coercion.coerceInteger_eq_ok {stored : Value} :
    coerceInteger kind value = .ok stored ↔
      ∃ n : kind.Number, value.Denotes n.val ∧ stored = .integer kind n := by
  unfold coerceInteger
  constructor
  · intro coerced
    split at coerced
    · cases coerced
    · next wide found =>
        split at coerced
        · next n fits =>
            cases coerced
            rw [IntegerKind.ofInt?_eq_some] at fits
            exact ⟨n, Value.toInteger?_eq_some.1 (fits ▸ found), rfl⟩
        · cases coerced
  · rintro ⟨n, denotes, rfl⟩
    simp only [Value.toInteger?_eq_some.2 denotes, IntegerKind.ofInt?_val]

/-- A parameter without a scale looks for the same integer. -/
theorem Parameter.toInteger?_zero (value : Value) :
    toInteger? 0 value = Coercion.toInteger? value := by
  cases value <;> rfl

/-- An integer parameter is bound to the integer that is found, if it fits. -/
theorem Parameter.toIntegerDatum_eq_ok {scale : Nat} {datum : NativeDatum} :
    toIntegerDatum kind scale value = .ok datum ↔
      ∃ n : kind.Number, toInteger? scale value = some n.val ∧
        datum = .fixed (.integer kind) n := by
  unfold toIntegerDatum
  constructor
  · intro bound
    dsimp only at bound
    split at bound
    · cases bound
    · next wide found =>
        split at bound
        · next n fits =>
            cases bound
            rw [IntegerKind.ofInt?_eq_some] at fits
            exact ⟨n, fits ▸ found, rfl⟩
        · cases bound
  · rintro ⟨n, found, rfl⟩
    simp only [found, IntegerKind.ofInt?_val]

/-- The types that are stored as integers of a kind and are no decimals. -/
theorem DeclaredType.eq_integer {type : DeclaredType} (storage : type.storage = .integer kind)
    (plain : type.isDecimal = false) : type = .integer kind := by
  cases type with
  | integer other =>
      cases storage
      rfl
  | decimal digits scale valid => cases plain
  | _ => cases storage

theorem DeclaredType.coerce_of_ne_null (kind : IntegerKind) (present : value ≠ .null) :
    (DeclaredType.integer kind).coerce value = Coercion.coerceInteger kind value := by
  cases value with
  | null => exact absurd rfl present
  | _ => rfl

/-- **The two integer conversions are exact and agree.** A column of an integer type and a parameter
of its storage take the values that denote an integer of the storage, and store exactly that. -/
theorem DeclaredType.integer_conversions_agree {type : DeclaredType}
    (storage : type.storage = .integer kind) (plain : type.isDecimal = false)
    (present : value ≠ .null) :
    (∀ stored, type.coerce value = .ok stored ↔
        ∃ n : kind.Number, value.Denotes n.val ∧ stored = .integer kind n) ∧
      (∀ datum, Parameter.toDatum (.integer kind) 0 value = .ok datum ↔
        ∃ n : kind.Number, value.Denotes n.val ∧ datum = .fixed (.integer kind) n) ∧
      ∀ n : kind.Number, type.coerce value = .ok (.integer kind n) ↔
        Parameter.toDatum (.integer kind) 0 value = .ok (.fixed (.integer kind) n) := by
  obtain rfl := eq_integer storage plain
  have stores (stored : Value) : (DeclaredType.integer kind).coerce value = .ok stored ↔
      ∃ n : kind.Number, value.Denotes n.val ∧ stored = .integer kind n := by
    rw [coerce_of_ne_null kind present]
    exact Coercion.coerceInteger_eq_ok
  have binds (datum : NativeDatum) : Parameter.toDatum (.integer kind) 0 value = .ok datum ↔
      ∃ n : kind.Number, value.Denotes n.val ∧ datum = .fixed (.integer kind) n := by
    rw [Parameter.toDatum, Parameter.toIntegerDatum_eq_ok, Parameter.toInteger?_zero]
    simp only [Value.toInteger?_eq_some]
  refine ⟨stores, binds, fun n => ?_⟩
  rw [stores, binds]
  constructor
  · rintro ⟨m, denotes, same⟩
    cases same
    exact ⟨n, denotes, rfl⟩
  · rintro ⟨m, denotes, same⟩
    cases same
    exact ⟨n, denotes, rfl⟩

/-- Fifteen hundreds, a decimal of a negative scale, are stored and bound as 1500. -/
theorem DeclaredType.integer_conversions_hundreds :
    (DeclaredType.integer .int16).coerce (.decimal ⟨15, -2⟩) =
        .ok (.integer .int16 ⟨1500, by decide⟩) ∧
      Parameter.toDatum (.integer .int16) 0 (.decimal ⟨15, -2⟩) =
        .ok (.fixed (.integer .int16) ⟨1500, by decide⟩) := by
  have denotes : Value.Denotes (.decimal ⟨15, -2⟩) 1500 := by
    refine .decimal _ 1500 ?_
    norm_num [Decimal.toRat]
  obtain ⟨stores, binds, -⟩ :=
    @integer_conversions_agree .int16 (.decimal ⟨15, -2⟩) (.integer .int16) rfl rfl (by decide)
  exact ⟨(stores _).2 ⟨⟨1500, by decide⟩, denotes, rfl⟩,
    (binds _).2 ⟨⟨1500, by decide⟩, denotes, rfl⟩⟩

end Conversions

end ColumnStore
