import ColumnStore.Proofs.Except
import ColumnStore.Proofs.Number.Rounding
import ColumnStore.Proofs.Value
import ColumnStore.Sql.Coercion

/-!
# What coercion makes of values

A declared type `Stores` NULL and the values of its own variant: numbers that are numbers,
texts without NUL, and decimals of exactly its scale and of no more digits than it has.
Coercion of a well-formed value answers nothing else.

Main result: `DeclaredType.stores_of_coerce`.
-/

set_option autoImplicit false

namespace ColumnStore

/-- The values that columns of a type store. -/
def DeclaredType.Stores : DeclaredType → Value → Prop
  | _, .null => True
  | .boolean, .bool _ => True
  | .integer kind, .integer other _ => other = kind
  | .real, .float number => number.isNaN = false
  | .double, .double number => number.isNaN = false
  | .varchar _, .str text => NulFree text.toList
  | .blob, .blob _ => True
  | .date, .date _ => True
  | .time, .time _ => True
  | .timestamp, .timestamp _ => True
  | .decimal digits scale _, .decimal number =>
      number.scale = scale ∧ number.unscaled.natAbs < 10 ^ digits
  | _, _ => False

namespace Coercion

theorem isNaN_of_toDouble? {value : Value} {number : Binary64} (formed : value.WellFormed)
    (read : toDouble? value = some number) : number.isNaN = false := by
  cases value with
  | decimal decimal =>
      cases read
      exact Binary.isNaN_ofDecimal (by decide) decimal
  | float single =>
      cases read
      exact Binary.isNaN_convert (by decide) formed
  | double number =>
      cases read
      exact formed
  | bool truth =>
      cases read
      exact Binary.isNaN_ofRatio (by decide) _ _ _
  | integer kind whole =>
      cases read
      exact Binary.isNaN_ofRatio (by decide) _ _ _
  | null => cases read
  | str => cases read
  | blob => cases read
  | date => cases read
  | time => cases read
  | timestamp => cases read

/-- What is stored of a value as a decimal is its number cut to the scale. -/
theorem coerceDecimal_eq_ok {digits scale : Nat} {value stored : Value} :
    coerceDecimal digits scale value = .ok stored ↔ ∃ number unscaled,
      toDecimal value = .ok number ∧ number.toUnscaled? scale = some unscaled ∧
        unscaled.val.natAbs < 10 ^ digits ∧
        stored = .decimal (Decimal.fromUnscaled unscaled.val scale) := by
  constructor
  · intro coerced
    obtain ⟨number, read, coerced⟩ := Except.bind_eq_ok.1 coerced
    split at coerced
    · next unscaled cut =>
        split at coerced
        · next bounded =>
            cases coerced
            exact ⟨number, unscaled, read, cut, bounded, rfl⟩
        · cases coerced
    · cases coerced
  · rintro ⟨number, unscaled, read, cut, bounded, rfl⟩
    refine Except.bind_eq_ok.2 ⟨number, read, ?_⟩
    simp only [cut]
    exact if_pos bounded

theorem stores_coerceDecimal {digits scale : Nat} {value stored : Value}
    {valid : 0 < digits ∧ scale ≤ digits ∧ digits ≤ 38}
    (coerced : coerceDecimal digits scale value = .ok stored) :
    (DeclaredType.decimal digits scale valid).Stores stored := by
  obtain ⟨number, unscaled, -, -, bounded, rfl⟩ := coerceDecimal_eq_ok.1 coerced
  exact ⟨rfl, bounded⟩

theorem stores_coerceBoolean {value stored : Value} (coerced : coerceBoolean value = .ok stored) :
    DeclaredType.boolean.Stores stored := by
  unfold coerceBoolean at coerced
  split at coerced
  · cases coerced
    trivial
  · split_ifs at coerced <;> cases coerced <;> trivial
  · split at coerced <;> cases coerced <;> trivial

theorem stores_coerceInteger {kind : IntegerKind} {value stored : Value}
    (coerced : coerceInteger kind value = .ok stored) :
    (DeclaredType.integer kind).Stores stored := by
  unfold coerceInteger at coerced
  split at coerced
  · cases coerced
  · split at coerced
    · cases coerced
      exact rfl
    · cases coerced

theorem stores_coerceText {limit : Nat} {value stored : Value} (formed : value.WellFormed)
    (coerced : coerceText limit value = .ok stored) :
    (DeclaredType.varchar limit).Stores stored := by
  unfold coerceText at coerced
  split at coerced
  · split at coerced
    · cases coerced
    · cases coerced
      exact formed
  · cases coerced
    exact Value.nulFree_text formed

theorem stores_coerceBlob {value stored : Value} (coerced : coerceBlob value = .ok stored) :
    DeclaredType.blob.Stores stored := by
  unfold coerceBlob at coerced
  split at coerced
  · cases coerced
    trivial
  · split at coerced <;> cases coerced
    trivial
  · cases coerced

theorem stores_coerceDate {value stored : Value} (coerced : coerceDate value = .ok stored) :
    DeclaredType.date.Stores stored := by
  unfold coerceDate at coerced
  split at coerced
  · cases coerced
    trivial
  · cases coerced
    trivial
  · obtain ⟨day, _, rfl⟩ := Except.map_eq_ok.1 coerced
    trivial
  · cases coerced

theorem stores_coerceTime {value stored : Value} (coerced : coerceTime value = .ok stored) :
    DeclaredType.time.Stores stored := by
  unfold coerceTime at coerced
  split at coerced
  · cases coerced
    trivial
  · cases coerced
    trivial
  · obtain ⟨instant, _, rfl⟩ := Except.map_eq_ok.1 coerced
    trivial
  · cases coerced

theorem stores_coerceTimestamp {value stored : Value}
    (coerced : coerceTimestamp value = .ok stored) : DeclaredType.timestamp.Stores stored := by
  unfold coerceTimestamp at coerced
  split at coerced
  · cases coerced
    trivial
  · cases coerced
    trivial
  · obtain ⟨instant, _, rfl⟩ := Except.map_eq_ok.1 coerced
    trivial
  · cases coerced

end Coercion

namespace DeclaredType

theorem stores_null (type : DeclaredType) : type.Stores .null := by
  cases type <;> trivial

/-- Decimals are stored whatever the value was. -/
theorem stores_of_coerce_decimal {digits scale : Nat} {value stored : Value}
    {valid : 0 < digits ∧ scale ≤ digits ∧ digits ≤ 38}
    (coerced : (decimal digits scale valid).coerce value = .ok stored) :
    (decimal digits scale valid).Stores stored := by
  unfold coerce at coerced
  split at coerced
  · cases coerced
    exact stores_null _
  · exact Coercion.stores_coerceDecimal coerced

/-- **Coercion answers what columns of the type store.** -/
theorem stores_of_coerce {type : DeclaredType} {value stored : Value} (formed : value.WellFormed)
    (coerced : type.coerce value = .ok stored) : type.Stores stored := by
  unfold coerce at coerced
  split at coerced
  · cases coerced
    exact stores_null type
  · cases type with
    | decimal digits scale valid => exact Coercion.stores_coerceDecimal coerced
    | boolean => exact Coercion.stores_coerceBoolean coerced
    | integer kind => exact Coercion.stores_coerceInteger coerced
    | real =>
        dsimp only at coerced
        split at coerced
        · next number read =>
            cases coerced
            exact Binary.isNaN_convert (by decide) (Coercion.isNaN_of_toDouble? formed read)
        · cases coerced
    | double =>
        dsimp only at coerced
        split at coerced
        · next number read =>
            cases coerced
            exact Coercion.isNaN_of_toDouble? formed read
        · cases coerced
    | varchar limit => exact Coercion.stores_coerceText formed coerced
    | blob => exact Coercion.stores_coerceBlob coerced
    | date => exact Coercion.stores_coerceDate coerced
    | time => exact Coercion.stores_coerceTime coerced
    | timestamp => exact Coercion.stores_coerceTimestamp coerced

end DeclaredType

end ColumnStore
