import ColumnStore.Proofs.Calendar.Text
import ColumnStore.Proofs.Number.DecimalText
import ColumnStore.Proofs.Sql.Coercion

/-!
# Casting through a text

A value that a column stores can be stored as a text, and a text can be stored in the column. For
truth values, decimals, dates, times and timestamps the way through a text is a way back: what is
read from the text of a stored value is told by `Value.reread?`, which is the value itself unless
its year has more than four digits, in which case the text is refused, or its nanoseconds have ten,
in which case the text is read as another time.

Main result: `DeclaredType.reread_through_text`.
-/

set_option autoImplicit false

namespace ColumnStore

/-! ## What the texts of values are read as -/

/-- The types whose values are read from their text. -/
def DeclaredType.readsOwnText : DeclaredType → Bool
  | boolean | date | time | timestamp | decimal .. => true
  | _ => false

namespace Value

/-- The value that is read from the text of a value, if the text is not refused. -/
def reread? : Value → Option Value
  | date day => if day.year ≤ 9999 then some (date day) else none
  | time instant => some (time instant.reread)
  | timestamp instant =>
      if instant.date.year ≤ 9999 then some (timestamp ⟨instant.date, instant.time.reread⟩)
      else none
  | value => some value

/-- The years have at most four digits and the nanoseconds at most nine. -/
def KeptByText : Value → Prop
  | date day => day.year ≤ 9999
  | time instant => instant.nano < Calendar.nanosPerSecond
  | timestamp instant =>
      instant.date.year ≤ 9999 ∧ instant.time.nano < Calendar.nanosPerSecond
  | _ => True

/-- Only values within these limits are read as themselves. -/
theorem reread?_eq_self_iff (value : Value) : value.reread? = some value ↔ value.KeptByText := by
  cases value with
  | date day => simp [reread?, KeptByText]
  | time instant => simp [reread?, KeptByText, Time.reread_eq_self_iff]
  | timestamp instant =>
      obtain ⟨day, time⟩ := instant
      simp [reread?, KeptByText, Time.reread_eq_self_iff]
  | _ => exact iff_of_true rfl trivial

end Value

namespace Coercion

theorem coerceBoolean_text (truth : Bool) :
    coerceBoolean (.str (Value.bool truth).text) = .ok (.bool truth) := by
  cases truth <;> decide

/-- A decimal that a column holds is read from its text, in whatever form it is written. -/
theorem coerceDecimal_text {digits scale : Nat} {value stored : Value}
    (coerced : coerceDecimal digits scale value = .ok stored) (small : scale ≤ 38) :
    coerceDecimal digits scale (.str stored.text) = .ok stored := by
  obtain ⟨-, unscaled, -, -, bounded, rfl⟩ := coerceDecimal_eq_ok.1 coerced
  let number := Decimal.fromUnscaled unscaled.val scale
  have least : IntegerKind.int64.minimum ≤ number.scale := by
    simp only [IntegerKind.minimum, number, Decimal.fromUnscaled]
    omega
  have greatest : number.scale ≤ IntegerKind.int64.maximum := by
    simp only [IntegerKind.maximum, number, Decimal.fromUnscaled]
    omega
  obtain ⟨read, written, same⟩ := Decimal.parse?_text least greatest
  refine coerceDecimal_eq_ok.2 ⟨read, unscaled, ?_, ?_, bounded, rfl⟩
  · show (Decimal.parse? number.text).elim _ Except.ok = .ok read
    rw [written]
    rfl
  · rw [Decimal.toUnscaled?_congr same, Decimal.toUnscaled?_fromUnscaled]

theorem ok_iff_some {value back : Value} :
    (Except.ok value : Except Failure Value) = .ok back ↔ some value = some back := by
  rw [Except.ok.injEq, Option.some.injEq]

theorem coerceDate_text {day : Date} {back : Value} :
    coerceDate (.str day.text) = .ok back ↔ (Value.date day).reread? = some back := by
  show Value.date <$> readDate day.text = .ok back ↔ _
  rw [readDate, Calendar.readDate?_text, Value.reread?]
  split_ifs
  · exact ok_iff_some
  · exact iff_of_false nofun nofun

theorem coerceTime_text {instant : Time} {back : Value} :
    coerceTime (.str instant.text) = .ok back ↔ (Value.time instant).reread? = some back := by
  show Value.time <$> readTime instant.text = .ok back ↔ _
  rw [readTime, Calendar.readTime?_text, Value.reread?]
  exact ok_iff_some

theorem coerceTimestamp_text {instant : Timestamp} {back : Value} :
    coerceTimestamp (.str instant.text) = .ok back ↔
      (Value.timestamp instant).reread? = some back := by
  show Value.timestamp <$> readTimestamp instant.text = .ok back ↔ _
  rw [readTimestamp, Calendar.readTimestamp?_text, Value.reread?]
  split_ifs
  · exact ok_iff_some
  · exact iff_of_false nofun nofun

end Coercion

/-! ## There and back -/

namespace DeclaredType

variable {type : DeclaredType} {original value : Value}

/-- Every value but NULL has a text that a column of texts without a limit stores. -/
theorem coerce_varchar_zero (present : value ≠ .null) :
    (varchar 0).coerce value = .ok (.str value.text) := by
  cases value with
  | null => exact absurd rfl present
  | _ => rfl

/-- What is read from the text of a value that the column stores. -/
theorem coerce_text_eq_ok (reads : type.readsOwnText) (present : value ≠ .null)
    (coerced : type.coerce original = .ok value) (back : Value) :
    type.coerce (.str value.text) = .ok back ↔ value.reread? = some back := by
  have given : original.isNull = false := by
    cases original with
    | null => exact absurd (Except.ok.inj coerced).symm present
    | _ => rfl
  unfold coerce at coerced ⊢
  rw [if_neg (by simp [given])] at coerced
  rw [if_neg (by simp [Value.isNull])]
  cases type with
  | boolean =>
      have stored := Coercion.stores_coerceBoolean coerced
      cases value <;> try exact stored.elim
      · exact absurd rfl present
      · next truth => exact Coercion.coerceBoolean_text truth ▸ Coercion.ok_iff_some
  | decimal digits scale valid =>
      have stored : (decimal digits scale valid).Stores value :=
        Coercion.stores_coerceDecimal coerced
      have again := Coercion.coerceDecimal_text coerced (valid.2.1.trans valid.2.2)
      cases value <;> try exact stored.elim
      · exact absurd rfl present
      · dsimp only
        rw [again]
        exact Coercion.ok_iff_some
  | date =>
      have stored := Coercion.stores_coerceDate coerced
      cases value <;> try exact stored.elim
      · exact absurd rfl present
      · exact Coercion.coerceDate_text
  | time =>
      have stored := Coercion.stores_coerceTime coerced
      cases value <;> try exact stored.elim
      · exact absurd rfl present
      · exact Coercion.coerceTime_text
  | timestamp =>
      have stored := Coercion.stores_coerceTimestamp coerced
      cases value <;> try exact stored.elim
      · exact absurd rfl present
      · exact Coercion.coerceTimestamp_text
  | _ => cases reads

/-- **Values of these types are read from their text.** Whatever a column of the type stores is
stored as a text by a column of texts without a limit, and what the type makes of the text is the
value reread. This is the value itself, decimals with their scale, just if its year has at most
four digits and its nanoseconds at most nine. -/
theorem reread_through_text (reads : type.readsOwnText)
    (coerced : type.coerce original = .ok value) :
    ∃ text, (varchar 0).coerce value = .ok text ∧ (value ≠ .null → text = .str value.text) ∧
      (∀ back, type.coerce text = .ok back ↔ value.reread? = some back) ∧
      (type.coerce text = .ok value ↔ value.KeptByText) := by
  by_cases present : value = .null
  · subst present
    have kept : type.coerce .null = .ok .null := rfl
    exact ⟨.null, rfl, absurd rfl, fun back => kept ▸ Coercion.ok_iff_some,
      iff_of_true kept trivial⟩
  · have reread := coerce_text_eq_ok reads present coerced
    refine ⟨.str value.text, coerce_varchar_zero present, fun _ => rfl, reread, ?_⟩
    rw [reread, Value.reread?_eq_self_iff]

/-- A small decimal, whose text has an exponent, and a leap second before the year zero, of which
a tenth of a second is read that is not the one written. -/
theorem reread_through_text_small :
    let small := decimal 18 11 (by decide)
    let leap : Timestamp := ⟨⟨-1, 12, 31, by decide, by decide⟩,
      ⟨23, 59, 59, 1500000000, by decide, by decide, by decide, by decide⟩⟩
    small.readsOwnText ∧ timestamp.readsOwnText ∧
      small.coerce (.decimal ⟨-1, 11⟩) = .ok (.decimal ⟨-1, 11⟩) ∧
      small.coerce (.str "-1E-11") = .ok (.decimal ⟨-1, 11⟩) ∧
      timestamp.coerce (.timestamp leap) = .ok (.timestamp leap) ∧
      (varchar 0).coerce (.timestamp leap) = .ok (.str "-001-12-31T23:59:59.1500000000") ∧
      timestamp.coerce (.str "-001-12-31T23:59:59.1500000000") ≠ .ok (.timestamp leap) := by
  intro small leap
  have decimalStored : small.coerce (.decimal ⟨-1, 11⟩) = .ok (.decimal ⟨-1, 11⟩) := by decide
  have leapStored : timestamp.coerce (.timestamp leap) = .ok (.timestamp leap) := rfl
  have decimalShown : (varchar 0).coerce (.decimal ⟨-1, 11⟩) = .ok (.str "-1E-11") := by decide
  have leapShown : (varchar 0).coerce (.timestamp leap) =
      .ok (.str "-001-12-31T23:59:59.1500000000") := by decide
  have reads : small.readsOwnText := rfl
  obtain ⟨_, written, -, -, kept⟩ := reread_through_text reads decimalStored
  cases Except.ok.inj (written.symm.trans decimalShown)
  have readsToo : timestamp.readsOwnText := rfl
  obtain ⟨_, leapWritten, -, -, lost⟩ := reread_through_text readsToo leapStored
  cases Except.ok.inj (leapWritten.symm.trans leapShown)
  refine ⟨reads, readsToo, decimalStored, kept.2 trivial, leapStored, leapShown, fun same => ?_⟩
  exact absurd (lost.1 same).2 (by decide)

end DeclaredType

end ColumnStore
