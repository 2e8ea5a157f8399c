import ColumnStore.Proofs.Text.NulFree
import ColumnStore.Value

/-!
# Well-formed values and their texts

A value is well-formed when a text in it has no NUL and a floating point number in it is a
number. Whatever the value, it is then written without NUL: numbers, dates and times are
written with digits and a few marks.

Main result: `Value.nulFree_text`.
-/

set_option autoImplicit false

namespace ColumnStore

/-! ## Digits -/

namespace Digits

theorem nulFree_ofNat (n : Nat) : NulFree (ofNat n) := by
  intro c member
  have digit := Nat.isDigit_of_mem_toDigits (by decide) (by decide) member
  simp only [Char.isDigit, Bool.and_eq_true, decide_eq_true_eq] at digit
  have least : '0'.toNat ≤ c.toNat := digit.1
  have number : '0'.toNat = 48 := by decide
  omega

theorem nulFree_signed {text : List Char} (free : NulFree text) (negative : Bool) :
    NulFree (signed negative text) := by
  unfold signed
  split
  · exact nulFree_cons.2 ⟨by decide, free⟩
  · exact free

theorem nulFree_ofInt (n : Int) : NulFree (ofInt n) :=
  nulFree_signed (nulFree_ofNat _) _

theorem nulFree_padLeft {text : List Char} (free : NulFree text) (width : Nat) :
    NulFree (padLeft width text) :=
  nulFree_append.2 ⟨nulFree_replicate (by decide) _, free⟩

theorem nulFree_padded (width n : Nat) : NulFree (padded width n) :=
  nulFree_padLeft (nulFree_ofNat n) width

theorem nulFree_paddedInt (width : Nat) (n : Int) : NulFree (paddedInt width n) := by
  unfold paddedInt
  split
  · exact nulFree_cons.2 ⟨by decide, nulFree_padded _ _⟩
  · exact nulFree_padded _ _

theorem nulFree_positional {digits : List Char} (free : NulFree digits) (scale : Int) :
    NulFree (positional digits scale) := by
  unfold positional
  split
  · exact nulFree_append.2 ⟨free, nulFree_replicate (by decide) _⟩
  · have all := nulFree_padLeft free (scale.toNat + 1)
    exact nulFree_append.2 ⟨all.of_subset (List.take_subset _ _),
      nulFree_cons.2 ⟨by decide, all.of_subset (List.drop_subset _ _)⟩⟩

theorem nulFree_scientific {digits : List Char} (free : NulFree digits) :
    NulFree (scientific digits) := by
  match digits, free with
  | [], free => exact free
  | [_], free => exact free
  | first :: second :: rest, free =>
      obtain ⟨present, others⟩ := nulFree_cons.1 free
      exact nulFree_cons.2 ⟨present, nulFree_cons.2 ⟨by decide, others⟩⟩

end Digits

/-! ## Numbers -/

theorem Decimal.nulFree_text (decimal : Decimal) : NulFree decimal.text.toList := by
  unfold text
  split
  · simp [NulFree]
  · rw [String.toList_ofList]
    refine Digits.nulFree_signed ?_ _
    have digits := Digits.nulFree_ofNat decimal.unscaled.natAbs
    split_ifs
    · exact nulFree_append.2 ⟨Digits.nulFree_scientific digits,
        nulFree_cons.2 ⟨by decide, nulFree_cons.2 ⟨by decide, Digits.nulFree_ofNat _⟩⟩⟩
    · exact nulFree_append.2 ⟨digits,
        nulFree_cons.2 ⟨by decide, nulFree_cons.2 ⟨by decide, Digits.nulFree_ofNat _⟩⟩⟩
    · exact Digits.nulFree_positional digits _

theorem Binary.nulFree_text {format : BinaryFormat} (number : Binary format) :
    NulFree number.text.toList := by
  unfold text
  split
  · simp [NulFree]
  · rw [String.toList_ofList]
    refine Digits.nulFree_signed ?_ _
    split_ifs
    · simp [NulFree]
    · simp [NulFree]
    · exact Digits.nulFree_positional (Digits.nulFree_ofNat _) _

/-! ## Dates and times -/

theorem Date.nulFree_text (date : Date) : NulFree date.text.toList := by
  rw [text, String.toList_ofList, textWithYear]
  simp [Digits.nulFree_padded, Digits.nulFree_paddedInt]

theorem Time.nulFree_text (time : Time) : NulFree time.text.toList := by
  rw [text, String.toList_ofList, clock]
  simp [Digits.nulFree_padded]

theorem Timestamp.nulFree_text (timestamp : Timestamp) : NulFree timestamp.text.toList := by
  simp [text, Date.nulFree_text, Time.nulFree_text]

/-! ## Octets -/

namespace Hex

theorem toNat_digit_ne_zero {n : Nat} (small : n < 16) : (digit n).toNat ≠ 0 := by
  unfold digit
  split
  · exact toNat_ofNat_ne_zero (by omega) (by omega)
  · exact toNat_ofNat_ne_zero (by omega) (by omega)

theorem nulFree_digits (bytes : Bytes) : NulFree (digits bytes) := by
  induction bytes with
  | nil => exact nulFree_nil
  | cons byte rest ih =>
      have octet := byte.toNat_lt
      exact nulFree_cons.2 ⟨toNat_digit_ne_zero (by omega),
        nulFree_cons.2 ⟨toNat_digit_ne_zero (by omega), ih⟩⟩

end Hex

theorem Value.nulFree_blobText (bytes : Bytes) : NulFree (blobText bytes).toList := by
  simp [blobText, Hex.encode, Hex.nulFree_digits]

/-! ## Values -/

namespace Value

/-- A text in the value has no NUL, and a floating point number in it is a number. -/
def WellFormed : Value → Prop
  | str text => NulFree text.toList
  | float number => number.isNaN = false
  | double number => number.isNaN = false
  | _ => True

/-- **A well-formed value is written without NUL.** -/
theorem nulFree_text {value : Value} (formed : value.WellFormed) : NulFree value.text.toList := by
  cases value with
  | null => simp [text, NulFree]
  | bool truth => cases truth <;> simp [text, NulFree]
  | integer kind number =>
      rw [text, String.toList_ofList]
      exact Digits.nulFree_ofInt _
  | float number => exact number.nulFree_text
  | double number => exact number.nulFree_text
  | str content => exact formed
  | blob bytes => exact nulFree_blobText bytes
  | date day => exact day.nulFree_text
  | time instant => exact instant.nulFree_text
  | timestamp instant => exact instant.nulFree_text
  | decimal number => exact number.nulFree_text

end Value

end ColumnStore
