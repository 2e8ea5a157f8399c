import ColumnStore.Text.CharacterClass
import Mathlib.Data.List.Basic

/-!
# Texts without NUL

A text that is handed over as NUL-terminated octets must not contain a NUL itself. The
lemmas here say which operations on texts keep them free of it.
-/

set_option autoImplicit false

namespace ColumnStore

/-- No character of a text is NUL. -/
def NulFree (text : List Char) : Prop :=
  ∀ c ∈ text, c.toNat ≠ 0

/-- The character with a number is not NUL, unless the number is zero or names none. -/
theorem toNat_ofNat_ne_zero {n : Nat} (positive : 0 < n)
    (named : n < 0xD800 ∨ 0xE000 ≤ n ∧ n < 0x110000) : (Char.ofNat n).toNat ≠ 0 := by
  have valid : n.isValidChar := by simp only [Nat.isValidChar]; omega
  have number : (Char.ofNat n).toNat = n := by rw [Char.ofNat, dif_pos valid]; rfl
  omega

@[simp] theorem nulFree_nil : NulFree [] := by
  simp [NulFree]

@[simp] theorem nulFree_cons {c : Char} {text : List Char} :
    NulFree (c :: text) ↔ c.toNat ≠ 0 ∧ NulFree text := by
  simp [NulFree]

@[simp] theorem nulFree_append {front back : List Char} :
    NulFree (front ++ back) ↔ NulFree front ∧ NulFree back := by
  simp [NulFree, or_imp, forall_and]

@[simp] theorem nulFree_reverse {text : List Char} : NulFree text.reverse ↔ NulFree text := by
  simp [NulFree]

theorem nulFree_replicate {c : Char} (present : c.toNat ≠ 0) (count : Nat) :
    NulFree (List.replicate count c) := by
  intro other member
  rw [List.eq_of_mem_replicate member]
  exact present

/-- A text that takes its characters from another is as free of NUL. -/
theorem NulFree.of_subset {part text : List Char} (free : NulFree text) (subset : part ⊆ text) :
    NulFree part :=
  fun c member => free c (subset member)

namespace CharacterClass

theorem toNat_lower_ne_zero {c : Char} (present : c.toNat ≠ 0) : (lower c).toNat ≠ 0 := by
  unfold lower
  split
  · next capital =>
      have least : 'A'.toNat ≤ c.toNat := capital.1
      have greatest : c.toNat ≤ 'Z'.toNat := capital.2
      have numbers : 'A'.toNat = 65 ∧ 'Z'.toNat = 90 := by decide
      exact toNat_ofNat_ne_zero (by omega) (by omega)
  · exact present

end CharacterClass

end ColumnStore
