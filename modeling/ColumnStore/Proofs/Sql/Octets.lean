import ColumnStore.Proofs.Text.Utf8
import ColumnStore.Sql.Coercion
import Mathlib.Algebra.Group.Even

/-!
# Blobs that are written as texts

A text is a blob when it spells octets, each by two hexadecimal digits in either letter case, the
higher one first. It is read by its own octets, two at a time; a character of more than one octet
may be cut in two by this, and then spells nothing.

Each octet is read as a number, which may have a plus sign in front: so an octet below sixteen
has a second spelling, a plus sign and one digit (`Coercion.OctetPair.signed`). Texts without a
plus sign are blobs exactly if they are pairs of hexadecimal digits.

Main result: `DeclaredType.blob_of_text`.
-/

set_option autoImplicit false

namespace ColumnStore

/-! ## Hexadecimal digits -/

namespace Hex

/-- The character is the hexadecimal digit of the number, in lower case or in capitals. -/
def Denotes (c : Char) (value : Nat) : Prop :=
  "0123456789abcdef".toList[value]? = some c ∨ "0123456789ABCDEF".toList[value]? = some c

/-- Two hexadecimal digits spell the octet, the higher one first. -/
def Pair (high low : Char) (octet : UInt8) : Prop :=
  ∃ h l, Denotes high h ∧ Denotes low l ∧ octet = UInt8.ofNat (16 * h + l)

/-- The text spells the octets in order, each by two characters that are in a relation to it. -/
inductive Spells (reads : Char → Char → UInt8 → Prop) : List Char → Bytes → Prop
  | nil : Spells reads [] []
  | pair {high low : Char} {octet : UInt8} {text : List Char} {octets : Bytes}
      (first : reads high low octet) (others : Spells reads text octets) :
      Spells reads (high :: low :: text) (octet :: octets)

theorem Denotes.lt {c : Char} {value : Nat} (denotes : Denotes c value) : value < 16 := by
  rcases denotes with found | found
  · exact (List.getElem?_eq_some_iff.1 found).1
  · exact (List.getElem?_eq_some_iff.1 found).1

theorem toNat_lt_of_digitValue? {c : Char} {value : Nat} (read : digitValue? c = some value) :
    c.toNat < 128 := by
  unfold digitValue? at read
  have numbers : '9'.toNat = 57 ∧ 'f'.toNat = 102 ∧ 'F'.toNat = 70 := by decide
  split_ifs at read with decimal small capital
  · have greatest : c.toNat ≤ '9'.toNat := decimal.2
    omega
  · have greatest : c.toNat ≤ 'f'.toNat := small.2
    omega
  · have greatest : c.toNat ≤ 'F'.toNat := capital.2
    omega

theorem digitValue?_eq_some {c : Char} {value : Nat} :
    digitValue? c = some value ↔ Denotes c value := by
  constructor
  · intro read
    have table : ∀ n < 128, ∀ value ∈ digitValue? (Char.ofNat n),
        "0123456789abcdef".toList[value]? = some (Char.ofNat n) ∨
          "0123456789ABCDEF".toList[value]? = some (Char.ofNat n) := by
      decide
    have known := table c.toNat (toNat_lt_of_digitValue? read) value
    rw [Char.ofNat_toNat] at known
    exact known read
  · intro denotes
    -- By the values, as there are too many characters to go through.
    have table : ∀ value < 16,
        "0123456789abcdef".toList[value]?.bind digitValue? = some value ∧
          "0123456789ABCDEF".toList[value]?.bind digitValue? = some value := by
      decide
    have both := table value denotes.lt
    rcases denotes with found | found
    · simpa only [found, Option.bind_some] using both.1
    · simpa only [found, Option.bind_some] using both.2

theorem Denotes.utf8Size {c : Char} {value : Nat} (denotes : Denotes c value) :
    c.utf8Size = 1 := by
  have ascii : c.toNat < 128 := toNat_lt_of_digitValue? (digitValue?_eq_some.2 denotes)
  exact Char.utf8Size_eq_one_iff.2 (Nat.le_of_lt_succ ascii)

theorem not_denotes_plus (value : Nat) : ¬ Denotes '+' value := by
  rw [← digitValue?_eq_some]
  exact nofun

theorem toNat?_single (c : Char) : toNat? [c] = digitValue? c := by
  cases known : digitValue? c <;> simp [toNat?, known]

theorem toNat?_pair {high low : Char} {n : Nat} :
    toNat? [high, low] = some n ↔
      ∃ h l, Denotes high h ∧ Denotes low l ∧ n = 16 * h + l := by
  simp only [← digitValue?_eq_some]
  cases first : digitValue? high <;> cases second : digitValue? low <;>
    simp [toNat?, first, second, eq_comm]

theorem denotes_digit {value : Nat} (small : value < 16) : Denotes (digit value) value := by
  have table : ∀ value < 16, "0123456789abcdef".toList[value]? = some (digit value) := by decide
  exact .inl (table value small)

/-- What is written for octets spells them. -/
theorem spells_digits (octets : Bytes) : Spells Pair (digits octets) octets := by
  induction octets with
  | nil => exact .nil
  | cons octet octets ih =>
      have bounded := octet.toNat_lt
      have whole : octet = UInt8.ofNat (16 * (octet.toNat / 16) + octet.toNat % 16) := by
        rw [Nat.div_add_mod, UInt8.ofNat_toNat]
      exact .pair ⟨_, _, denotes_digit (by omega), denotes_digit (by omega), whole⟩ ih

/-- **What spells octets by two digits each** are hexadecimal digits, an even number of them. -/
theorem exists_spells_iff {text : List Char} : (∃ octets, Spells Pair text octets) ↔
    Even text.length ∧ ∀ c ∈ text, ∃ value, Denotes c value := by
  constructor
  · rintro ⟨octets, spells⟩
    induction spells with
    | nil => exact ⟨⟨0, rfl⟩, nofun⟩
    | pair first others ih =>
        obtain ⟨h, l, higher, lower, rfl⟩ := first
        obtain ⟨even, digits⟩ := ih
        refine ⟨by simpa [Nat.even_add_one] using even, ?_⟩
        intro c member
        rcases List.mem_cons.1 member with rfl | member
        · exact ⟨h, higher⟩
        · rcases List.mem_cons.1 member with rfl | member
          · exact ⟨l, lower⟩
          · exact digits c member
  · rintro ⟨⟨pairs, count⟩, digits⟩
    induction pairs generalizing text with
    | zero => exact ⟨[], List.eq_nil_of_length_eq_zero count ▸ .nil⟩
    | succ pairs ih =>
        obtain ⟨high, low, text, rfl⟩ : ∃ high low rest, text = high :: low :: rest := by
          match text, count with
          | [], count => exact absurd count (by simp)
          | [_], count => exact absurd count (by simp only [List.length_singleton]; omega)
          | high :: low :: rest, _ => exact ⟨high, low, rest, rfl⟩
        obtain ⟨h, higher⟩ := digits high (by simp)
        obtain ⟨l, lower⟩ := digits low (by simp)
        have rest : ∀ c ∈ text, ∃ value, Denotes c value :=
          fun c member => digits c (by simp [member])
        obtain ⟨octets, others⟩ := ih rest (by simp only [List.length_cons] at count; omega)
        exact ⟨_, .pair ⟨h, l, higher, lower, rfl⟩ others⟩

end Hex

/-! ## Texts that are read as octets -/

namespace Coercion

open Hex (Spells)

/-- Two characters that are read as an octet: two digits, or a plus sign and one digit. -/
def OctetPair (high low : Char) (octet : UInt8) : Prop :=
  Hex.Pair high low octet ∨
    high = '+' ∧ ∃ value, Hex.Denotes low value ∧ octet = UInt8.ofNat value

theorem OctetPair.size {high low : Char} {octet : UInt8} (pair : OctetPair high low octet) :
    Utf8.size [high, low] = 2 := by
  have sizes {high low : Char} (first : high.utf8Size = 1) (second : low.utf8Size = 1) :
      Utf8.size [high, low] = 2 := by
    rw [Utf8.size_cons, Utf8.size_cons, first, second]
    rfl
  rcases pair with ⟨h, l, higher, lower, _⟩ | ⟨rfl, value, lower, _⟩
  · exact sizes higher.utf8Size lower.utf8Size
  · exact sizes rfl lower.utf8Size

theorem readOctet?_pair {high low : Char} {octet : UInt8} :
    readOctet? [high, low] = some octet ↔ OctetPair high low octet := by
  by_cases plus : high = '+'
  · subst plus
    have read : readOctet? ['+', low] = (Hex.toNat? [low]).bind fun n =>
        if n < 256 then some (UInt8.ofNat n) else none := rfl
    rw [read, Hex.toNat?_single, Option.bind_eq_some_iff]
    constructor
    · rintro ⟨value, digit, made⟩
      split at made
      · cases made
        exact .inr ⟨rfl, value, Hex.digitValue?_eq_some.1 digit, rfl⟩
      · cases made
    · rintro (⟨h, l, higher, _⟩ | ⟨_, value, digit, rfl⟩)
      · exact absurd higher (Hex.not_denotes_plus h)
      · have small := digit.lt
        exact ⟨value, Hex.digitValue?_eq_some.2 digit, if_pos (by omega)⟩
  · have read : readOctet? [high, low] = (Hex.toNat? [high, low]).bind fun n =>
        if n < 256 then some (UInt8.ofNat n) else none := by
      unfold readOctet?
      split
      · next same =>
          cases same
          exact absurd rfl plus
      · rfl
    rw [read, Option.bind_eq_some_iff]
    constructor
    · rintro ⟨n, digits, made⟩
      obtain ⟨h, l, higher, lower, rfl⟩ := Hex.toNat?_pair.1 digits
      split at made
      · cases made
        exact .inl ⟨h, l, higher, lower, rfl⟩
      · cases made
    · rintro (⟨h, l, higher, lower, rfl⟩ | ⟨same, _⟩)
      · have small := higher.lt
        have low_small := lower.lt
        exact ⟨_, Hex.toNat?_pair.2 ⟨h, l, higher, lower, rfl⟩, if_pos (by omega)⟩
      · exact absurd same plus

/-- The octet that the two octets of a text at a position spell. -/
def octetAt? (text : List Char) (pair : Nat) : Option UInt8 := do
  let written ← Utf8.slice? (2 * pair) (2 * pair + 2) text
  readOctet? written

theorem readOctets?_of_even {text : List Char} {pairs : Nat} (even : Utf8.size text = 2 * pairs) :
    readOctets? text = (List.range pairs).mapM (octetAt? text) := by
  have count : Utf8.size text / 2 = pairs := by omega
  have whole : ¬ Utf8.size text % 2 ≠ 0 := by omega
  rw [readOctets?, if_neg whole, count]
  rfl

theorem readOctets?_of_odd {text : List Char} (odd : Utf8.size text % 2 ≠ 0) :
    readOctets? text = none :=
  if_pos odd

section Part

variable {part rest : List Char}

theorem octetAt?_zero (two : Utf8.size part = 2) : octetAt? (part ++ rest) 0 = readOctet? part := by
  have first := Utf8.slice?_first part rest
  rw [two] at first
  simp only [octetAt?, Nat.mul_zero, Nat.zero_add, first]
  rfl

theorem octetAt?_succ (two : Utf8.size part = 2) (pair : Nat) :
    octetAt? (part ++ rest) (pair + 1) = octetAt? rest pair := by
  have later := Utf8.slice?_append part rest (2 * pair) (2 * pair + 2)
  rw [two] at later
  have start : 2 * (pair + 1) = 2 + 2 * pair := by omega
  simp only [octetAt?, start, Nat.add_assoc, later]

/-- The first two octets of a text are read before the others. -/
theorem readOctets?_append (two : Utf8.size part = 2) {octets : Bytes} :
    readOctets? (part ++ rest) = some octets ↔
      ∃ octet others, readOctet? part = some octet ∧ readOctets? rest = some others ∧
        octets = octet :: others := by
  have size : Utf8.size (part ++ rest) = 2 + Utf8.size rest := by rw [Utf8.size_append, two]
  rcases Nat.mod_two_eq_zero_or_one (Utf8.size rest) with even | odd
  · obtain ⟨pairs, count⟩ : ∃ pairs, Utf8.size rest = 2 * pairs := ⟨Utf8.size rest / 2, by omega⟩
    have later : (fun pair => octetAt? (part ++ rest) (pair + 1)) = octetAt? rest := by
      funext pair
      exact octetAt?_succ two pair
    have longer : Utf8.size (part ++ rest) = 2 * (pairs + 1) := by omega
    rw [readOctets?_of_even longer, readOctets?_of_even count,
      List.range_succ_eq_map, List.mapM_cons, octetAt?_zero two, List.mapM_map]
    simp only [Function.comp_def, Nat.succ_eq_add_one, later, Option.bind_eq_bind,
      Option.bind_eq_some_iff, Option.pure_def, Option.some.injEq]
    constructor
    · rintro ⟨octet, first, others, second, rfl⟩
      exact ⟨octet, others, first, second, rfl⟩
    · rintro ⟨octet, others, first, second, rfl⟩
      exact ⟨octet, first, others, second, rfl⟩
  · have longer : Utf8.size (part ++ rest) % 2 ≠ 0 := by omega
    have shorter : Utf8.size rest % 2 ≠ 0 := by omega
    rw [readOctets?_of_odd longer, readOctets?_of_odd shorter]
    simp

end Part

/-- Two octets that are read are those of two characters: no digit has two octets. -/
theorem exists_pair_of_readOctet? {part : List Char} {octet : UInt8} (two : Utf8.size part = 2)
    (read : readOctet? part = some octet) :
    ∃ high low, part = [high, low] ∧ OctetPair high low octet := by
  match part, two, read with
  | [], two, _ => cases two
  | [c], two, read =>
      have digit : ∃ value, Hex.Denotes c value := by
        unfold readOctet? at read
        split at read
        · next digits same =>
            cases same
            cases read
        · obtain ⟨value, digit, _⟩ := Option.bind_eq_some_iff.1 read
          rw [Hex.toNat?_single] at digit
          exact ⟨value, Hex.digitValue?_eq_some.1 digit⟩
      obtain ⟨value, digit⟩ := digit
      rw [Utf8.size_cons, digit.utf8Size] at two
      cases two
  | [high, low], _, read => exact ⟨high, low, rfl, readOctet?_pair.1 read⟩
  | a :: b :: c :: rest, two, _ =>
      have first := a.utf8Size_pos
      have second := b.utf8Size_pos
      have third := c.utf8Size_pos
      simp only [Utf8.size_cons] at two
      omega

theorem spells_of_readOctets? {text : List Char} {octets : Bytes} {pairs : Nat}
    (even : Utf8.size text = 2 * pairs) (read : readOctets? text = some octets) :
    Spells OctetPair text octets := by
  induction pairs generalizing text octets with
  | zero =>
      obtain rfl := Utf8.size_eq_zero.1 even
      cases read
      exact .nil
  | succ pairs ih =>
      obtain ⟨part, sliced⟩ : ∃ part, Utf8.slice? 0 2 text = some part := by
        rw [readOctets?_of_even even, List.range_succ_eq_map, List.mapM_cons] at read
        obtain ⟨octet, first, _⟩ := Option.bind_eq_some_iff.1 read
        obtain ⟨part, sliced, _⟩ := Option.bind_eq_some_iff.1 first
        exact ⟨part, sliced⟩
      obtain ⟨front, rest, rfl, nothing, two⟩ := Utf8.of_slice? sliced
      obtain rfl := Utf8.size_eq_zero.1 nothing
      obtain ⟨octet, others, first, second, rfl⟩ := (readOctets?_append two).1 read
      obtain ⟨high, low, rfl, pair⟩ := exists_pair_of_readOctet? two first
      have shorter : Utf8.size rest = 2 * pairs := by
        rw [List.nil_append, Utf8.size_append] at even
        omega
      exact .pair pair (ih shorter second)

/-- **A text is read as octets** just if it spells them, by two digits each or by a plus sign and
a digit. -/
theorem readOctets?_eq_some {text : List Char} {octets : Bytes} :
    readOctets? text = some octets ↔ Spells OctetPair text octets := by
  constructor
  · intro read
    rcases Nat.mod_two_eq_zero_or_one (Utf8.size text) with even | odd
    · have whole : Utf8.size text = 2 * (Utf8.size text / 2) := by omega
      exact spells_of_readOctets? whole read
    · rw [readOctets?_of_odd (by omega)] at read
      cases read
  · intro spells
    induction spells with
    | nil => rfl
    | pair first others ih =>
        exact (readOctets?_append first.size).2 ⟨_, _, readOctet?_pair.2 first, ih, rfl⟩

/-- Without a plus sign the octets are spelled by two digits each. -/
theorem spells_iff_of_notMem {text : List Char} {octets : Bytes} (free : '+' ∉ text) :
    Spells OctetPair text octets ↔ Spells Hex.Pair text octets := by
  constructor
  · intro spells
    induction spells with
    | nil => exact .nil
    | pair first others ih =>
        simp only [List.mem_cons, not_or] at free
        rcases first with digits | ⟨plus, _⟩
        · exact .pair digits (ih free.2.2)
        · exact absurd plus.symm free.1
  · intro spells
    clear free
    induction spells with
    | nil => exact .nil
    | pair first others ih => exact .pair (.inl first) ih

end Coercion

namespace DeclaredType

open Hex (Spells)

theorem coerce_blob (text : String) : blob.coerce (.str text) =
    match Coercion.readOctets? text.toList with
    | some octets => .ok (.blob octets)
    | none => .error (.conversion (.str text) .blob) :=
  rfl

theorem coerce_blob_eq_ok {text : String} {stored : Value} :
    blob.coerce (.str text) = .ok stored ↔
      ∃ octets, stored = .blob octets ∧ Spells Coercion.OctetPair text.toList octets := by
  rw [coerce_blob]
  split
  · next octets read =>
      constructor
      · rintro ⟨⟩
        exact ⟨octets, rfl, Coercion.readOctets?_eq_some.1 read⟩
      · rintro ⟨others, rfl, spells⟩
        cases read.symm.trans (Coercion.readOctets?_eq_some.2 spells)
        rfl
  · next unread =>
      constructor
      · rintro ⟨⟩
      · rintro ⟨others, rfl, spells⟩
        cases unread.symm.trans (Coercion.readOctets?_eq_some.2 spells)

/-- A text that is no blob is quoted back. -/
theorem coerce_blob_eq_error {text : String}
    (other : ∀ octets, ¬ Spells Coercion.OctetPair text.toList octets) :
    blob.coerce (.str text) = .error (.conversion (.str text) .blob) := by
  have unread : Coercion.readOctets? text.toList = none := by
    rw [Option.eq_none_iff_forall_ne_some]
    intro octets read
    exact other octets (Coercion.readOctets?_eq_some.1 read)
  rw [coerce_blob, unread]

/-- **A text is stored in a blob column** as the octets that it spells, by two hexadecimal digits
each or by a plus sign and a digit, and is refused if it spells none. Without a plus sign it is
stored just if it is an even number of hexadecimal digits, in either letter case, and the digits
spell what is stored. What is written for octets is stored as these octets. -/
theorem blob_of_text (text : String) :
    (∀ stored, blob.coerce (.str text) = .ok stored ↔
      ∃ octets, stored = .blob octets ∧ Spells Coercion.OctetPair text.toList octets) ∧
    ((∀ octets, ¬ Spells Coercion.OctetPair text.toList octets) →
      blob.coerce (.str text) = .error (.conversion (.str text) .blob)) ∧
    ('+' ∉ text.toList →
      ((∃ stored, blob.coerce (.str text) = .ok stored) ↔
        Even text.length ∧ ∀ c ∈ text.toList, ∃ value, Hex.Denotes c value) ∧
      ∀ stored, blob.coerce (.str text) = .ok stored ↔
        ∃ octets, stored = .blob octets ∧ Spells Hex.Pair text.toList octets) ∧
    ∀ octets, blob.coerce (.str (Hex.encode octets)) = .ok (.blob octets) := by
  refine ⟨fun stored => coerce_blob_eq_ok, coerce_blob_eq_error, fun free => ?_, fun octets => ?_⟩
  · have strict (stored : Value) : blob.coerce (.str text) = .ok stored ↔
        ∃ octets, stored = .blob octets ∧ Spells Hex.Pair text.toList octets := by
      simp only [coerce_blob_eq_ok, Coercion.spells_iff_of_notMem free]
    refine ⟨?_, strict⟩
    rw [← String.length_toList, ← Hex.exists_spells_iff]
    constructor
    · rintro ⟨stored, coerced⟩
      obtain ⟨octets, _, spells⟩ := (strict stored).1 coerced
      exact ⟨octets, spells⟩
    · rintro ⟨octets, spells⟩
      exact ⟨_, (strict _).2 ⟨octets, rfl, spells⟩⟩
  · rw [coerce_blob_eq_ok]
    have plain : '+' ∉ Hex.digits octets := by
      intro member
      obtain ⟨_, digits⟩ := Hex.exists_spells_iff.1 ⟨octets, Hex.spells_digits octets⟩
      obtain ⟨value, digit⟩ := digits '+' member
      exact Hex.not_denotes_plus value digit
    refine ⟨octets, rfl, ?_⟩
    rw [Hex.encode, String.toList_ofList, Coercion.spells_iff_of_notMem plain]
    exact Hex.spells_digits octets

/-- A text with digits in both cases, and one that is cut inside a character. -/
theorem blob_of_text_mixed :
    blob.coerce (.str "0aFf") = .ok (.blob [10, 255]) ∧
      blob.coerce (.str "aéa") = .error (.conversion (.str "aéa") .blob) := by
  have digits : Spells Hex.Pair "0aFf".toList [10, 255] :=
    .pair ⟨0, 10, .inl rfl, .inl rfl, rfl⟩ (.pair ⟨15, 15, .inr rfl, .inl rfl, rfl⟩ .nil)
  have foreign : ¬ ∃ value, Hex.Denotes 'é' value := by
    rintro ⟨value, denotes⟩
    exact absurd denotes.utf8Size (by decide)
  have free : '+' ∉ "0aFf".toList ∧ '+' ∉ "aéa".toList := by decide
  refine ⟨(((blob_of_text "0aFf").2.2.1 free.1).2 _).2 ⟨_, rfl, digits⟩, ?_⟩
  refine (blob_of_text "aéa").2.1 fun octets spells => foreign ?_
  rw [Coercion.spells_iff_of_notMem free.2] at spells
  exact (Hex.exists_spells_iff.1 ⟨octets, spells⟩).2 'é' (by decide)

/-- A plus sign and a digit are stored as an octet, though the plus sign is no digit. -/
theorem exists_signed_octet : ¬ ∀ text : String,
    (∃ stored, blob.coerce (.str text) = .ok stored) ↔
      Even text.length ∧ ∀ c ∈ text.toList, ∃ value, Hex.Denotes c value := by
  intro claimed
  have coerced : blob.coerce (.str "+f") = .ok (.blob [15]) := by decide
  obtain ⟨value, denotes⟩ := ((claimed "+f").1 ⟨_, coerced⟩).2 '+' (by decide)
  exact Hex.not_denotes_plus value denotes

end DeclaredType

end ColumnStore
