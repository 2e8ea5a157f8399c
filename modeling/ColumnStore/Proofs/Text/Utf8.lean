import ColumnStore.Proofs.Text.NulFree
import ColumnStore.Text.NativeText
import Mathlib.Tactic.Ring

/-!
# Encoding and decoding texts

Decoding undoes encoding, octet by octet: the lead of an encoded character announces a
range that holds its second octet, and the octets behind it rebuild the number of the
character. Other octets decode to characters too, and none of them is NUL unless a zero was
among the octets. The invariant behind this bounds the numbers that the octets to come can
still make (`Progress.Sound`).

A part of a text between two positions is there if neither position is inside a character.

Main results: `decode_ofString`, `of_slice?`, `NativeText.exists_ofString?` and
`NativeText.nulFree_toString`.
-/

set_option autoImplicit false

namespace ColumnStore

namespace Utf8

/-! ## Decoding undoes encoding -/

theorem run_ascii {n : Nat} (ascii : n < 0x80) (rest : Bytes) :
    run .start (UInt8.ofNat n :: rest) = Char.ofNat n :: run .start rest := by
  have value := UInt8.toNat_ofNat_of_lt' (show n < 256 by omega)
  simp only [run, feed, begin, value, if_pos ascii, List.singleton_append]

theorem run_lead {n payload least greatest following : Nat} (long : 0x80 ≤ n) (small : n < 256)
    (announced : lead? n = some ⟨payload, least, greatest, following + 1⟩) (rest : Bytes) :
    run .start (UInt8.ofNat n :: rest) = run (.partly payload least greatest following) rest := by
  have value := UInt8.toNat_ofNat_of_lt' small
  simp only [run, feed, begin, value, if_neg (Nat.not_lt.2 long), announced, List.nil_append,
    Nat.add_sub_cancel]

/-- An octet that follows carries the low six bits of `n`. -/
theorem run_middle {payload least greatest following : Nat} (n : Nat)
    (inside : least ≤ n % 64 + 0x80 ∧ n % 64 + 0x80 ≤ greatest) (rest : Bytes) :
    run (.partly payload least greatest (following + 1)) (UInt8.ofNat (n % 64 + 0x80) :: rest) =
      run (.partly (64 * payload + n % 64) 0x80 0xBF following) rest := by
  have value := UInt8.toNat_ofNat_of_lt' (show n % 64 + 0x80 < 256 by omega)
  have low : (n % 64 + 0x80) % 64 = n % 64 := by omega
  simp only [run, feed, value, if_pos inside, low, List.nil_append]

theorem run_last {payload least greatest : Nat} (n : Nat)
    (inside : least ≤ n % 64 + 0x80 ∧ n % 64 + 0x80 ≤ greatest) (rest : Bytes) :
    run (.partly payload least greatest 0) (UInt8.ofNat (n % 64 + 0x80) :: rest) =
      Char.ofNat (64 * payload + n % 64) :: run .start rest := by
  have value := UInt8.toNat_ofNat_of_lt' (show n % 64 + 0x80 < 256 by omega)
  have low : (n % 64 + 0x80) % 64 = n % 64 := by omega
  simp only [run, feed, value, if_pos inside, low, List.singleton_append]

theorem lead?_two {n : Nat} (least : 0x80 ≤ n) (greatest : n ≤ 0x7FF) :
    lead? (n / 64 % 32 + 0xC0) = some ⟨n / 64, 0x80, 0xBF, 1⟩ := by
  have small : n / 64 % 32 = n / 64 := Nat.mod_eq_of_lt (by omega)
  simp only [lead?, small]
  split_ifs <;> first | omega | simp

/-- The second octet of three lies in the range that the first announces: the range leaves
out overlong forms and surrogates. -/
theorem lead?_three {n : Nat} (least : 0x800 ≤ n) (greatest : n ≤ 0xFFFF)
    (valid : n < 0xD800 ∨ 0xDFFF < n) :
    ∃ lower upper, lead? (n / 4096 % 16 + 0xE0) = some ⟨n / 4096, lower, upper, 2⟩ ∧
      lower ≤ n / 64 % 64 + 0x80 ∧ n / 64 % 64 + 0x80 ≤ upper := by
  have small : n / 4096 % 16 = n / 4096 := Nat.mod_eq_of_lt (by omega)
  simp only [lead?, small]
  split_ifs <;> first
    | omega
    | (simp only [Option.some.injEq, Lead.mk.injEq]
       refine ⟨_, _, ⟨by omega, rfl, rfl, trivial⟩, ?_, ?_⟩ <;> omega)

/-- The second octet of four lies in the range that the first announces: the range leaves
out overlong forms and what is past the last character. -/
theorem lead?_four {n : Nat} (least : 0x10000 ≤ n) (greatest : n < 0x110000) :
    ∃ lower upper, lead? (n / 262144 % 8 + 0xF0) = some ⟨n / 262144, lower, upper, 3⟩ ∧
      lower ≤ n / 4096 % 64 + 0x80 ∧ n / 4096 % 64 + 0x80 ≤ upper := by
  have small : n / 262144 % 8 = n / 262144 := Nat.mod_eq_of_lt (by omega)
  simp only [lead?, small]
  split_ifs <;> first
    | omega
    | (simp only [Option.some.injEq, Lead.mk.injEq]
       refine ⟨_, _, ⟨by omega, rfl, rfl, trivial⟩, ?_, ?_⟩ <;> omega)

/-- One encoded character is read back, whatever follows it. -/
theorem run_utf8EncodeChar (c : Char) (rest : Bytes) :
    run .start (String.utf8EncodeChar c ++ rest) = c :: run .start rest := by
  have valid := c.valid
  have same : Char.ofNat c.val.toNat = c := Char.ofNat_toNat c
  simp only [UInt32.isValidChar, Nat.isValidChar] at valid
  generalize number : c.val.toNat = n at valid same
  unfold String.utf8EncodeChar
  simp only [number]
  split_ifs with one two three <;> simp only [List.cons_append, List.nil_append]
  · rw [run_ascii (by omega), same]
  · have joined : 64 * (n / 64) + n % 64 = n := by omega
    rw [run_lead (by omega) (by omega) (lead?_two (by omega) two), run_last n (by omega), joined,
      same]
  · obtain ⟨lower, upper, announced, second⟩ := lead?_three (n := n) (by omega) three (by omega)
    have joined : 64 * (64 * (n / 4096) + n / 64 % 64) + n % 64 = n := by omega
    rw [run_lead (by omega) (by omega) announced, run_middle (n / 64) second,
      run_last n (by omega), joined, same]
  · obtain ⟨lower, upper, announced, second⟩ := lead?_four (n := n) (by omega) (by omega)
    have joined :
        64 * (64 * (64 * (n / 262144) + n / 4096 % 64) + n / 64 % 64) + n % 64 = n := by omega
    rw [run_lead (by omega) (by omega) announced, run_middle (n / 4096) second,
      run_middle (n / 64) (by omega), run_last n (by omega), joined, same]

theorem run_encode (text : List Char) : run .start (encode text) = text := by
  induction text with
  | nil => rfl
  | cons c text ih =>
      show run .start (String.utf8EncodeChar c ++ encode text) = c :: text
      rw [run_utf8EncodeChar, ih]

/-- **Decoding undoes encoding.** -/
theorem decode_ofString (text : String) : decode (ofString text) = text := by
  rw [decode, ofString, run_encode, String.ofList_toList]

/-! ## Parts of a text -/

@[simp] theorem size_nil : size [] = 0 := rfl

@[simp] theorem size_cons (c : Char) (text : List Char) :
    size (c :: text) = c.utf8Size + size text := rfl

@[simp] theorem size_append (front back : List Char) :
    size (front ++ back) = size front + size back := by
  induction front with
  | nil => rw [List.nil_append, size_nil, Nat.zero_add]
  | cons c front ih => rw [List.cons_append, size_cons, size_cons, ih, Nat.add_assoc]

theorem size_eq_zero {text : List Char} : size text = 0 ↔ text = [] := by
  cases text with
  | nil => exact iff_of_true rfl rfl
  | cons c rest =>
      have positive := c.utf8Size_pos
      simp only [size_cons, reduceCtorEq, iff_false]
      omega

/-- A text is cut at a place behind its first characters where the others are. -/
theorem cutAt?_append (front text : List Char) (octets : Nat) :
    cutAt? (size front + octets) (front ++ text) =
      (cutAt? octets text).map fun (before, behind) => (front ++ before, behind) := by
  induction front with
  | nil =>
      rw [size_nil, Nat.zero_add, List.nil_append]
      exact (Option.map_id' ..).symm
  | cons c front ih =>
      obtain ⟨less, whole⟩ : ∃ less, size (c :: front) + octets = less + 1 := by
        have positive := c.utf8Size_pos
        exact ⟨size (c :: front) + octets - 1, by rw [size_cons]; omega⟩
      rw [size_cons] at whole
      have rest : less + 1 - c.utf8Size = size front + octets := by omega
      rw [size_cons, whole, List.cons_append, cutAt?, if_pos (by omega), rest, ih]
      cases cutAt? octets text <;> rfl

/-- What a text is cut into are its first characters and the others. -/
theorem of_cutAt? {octets : Nat} {text front back : List Char}
    (cut : cutAt? octets text = some (front, back)) :
    text = front ++ back ∧ size front = octets := by
  induction octets, text using cutAt?.induct generalizing front with
  | case1 text => cases text <;> cases cut <;> exact ⟨rfl, rfl⟩
  | case2 => cases cut
  | case3 octets c rest fits ih =>
      rw [cutAt?, if_pos fits] at cut
      obtain ⟨⟨others, after⟩, earlier, same⟩ := Option.bind_eq_some_iff.1 cut
      cases same
      obtain ⟨rfl, length⟩ := ih earlier
      exact ⟨rfl, by rw [size_cons]; omega⟩
  | case4 octets c rest long =>
      rw [cutAt?, if_neg long] at cut
      cases cut

/-- A part behind the first characters is a part of the others. -/
theorem slice?_append (front text : List Char) (start stop : Nat) :
    slice? (size front + start) (size front + stop) (front ++ text) = slice? start stop text := by
  rw [slice?, slice?, cutAt?_append, Nat.add_sub_add_left]
  cases cutAt? start text <;> rfl

/-- **A part of a text** begins and ends between two of its characters. -/
theorem of_slice? {start stop : Nat} {text part : List Char}
    (sliced : slice? start stop text = some part) :
    ∃ front back, text = front ++ (part ++ back) ∧ size front = start ∧
      size part = stop - start := by
  obtain ⟨⟨front, behind⟩, first, rest⟩ := Option.bind_eq_some_iff.1 sliced
  obtain ⟨⟨taken, back⟩, second, same⟩ := Option.bind_eq_some_iff.1 rest
  cases same
  obtain ⟨rfl, length⟩ := of_cutAt? first
  obtain ⟨rfl, taken⟩ := of_cutAt? second
  exact ⟨front, back, rfl, length, taken⟩

/-- The first characters are a part. -/
theorem slice?_first (front back : List Char) :
    slice? 0 (size front) (front ++ back) = some front := by
  have cut := cutAt?_append front back 0
  rw [Nat.add_zero] at cut
  have start : cutAt? 0 (front ++ back) = some ([], front ++ back) := by
    cases front ++ back <;> rfl
  have none_left : cutAt? 0 back = some ([], back) := by
    cases back <;> rfl
  simp only [slice?, start, Option.bind_eq_bind, Option.bind_some, Nat.sub_zero, cut, none_left,
    Option.map_some, List.append_nil]
  rfl

/-! ## Texts without NUL -/

namespace Progress

/-- Every character that can still be completed exists and is not NUL. Bounded are the
least and the greatest number that the octets to come can make. -/
def Sound : Progress → Prop
  | .start => True
  | .partly payload least greatest rest =>
      0x80 ≤ least ∧ greatest ≤ 0xBF ∧
        0 < (64 * payload + (least - 0x80)) * 64 ^ rest ∧
        ((64 * payload + (greatest - 0x80) + 1) * 64 ^ rest ≤ 0xD800 ∨
          0xE000 ≤ (64 * payload + (least - 0x80)) * 64 ^ rest ∧
            (64 * payload + (greatest - 0x80) + 1) * 64 ^ rest ≤ 0x110000)

end Progress

theorem lead?_sound {octet : Nat} {lead : Lead} (announced : lead? octet = some lead) :
    Progress.Sound (.partly lead.payload lead.secondLeast lead.secondGreatest
      (lead.following - 1)) := by
  unfold lead? at announced
  split_ifs at announced <;> simp only [Option.some.injEq] at announced <;>
    subst announced <;> simp only [Progress.Sound, Nat.reduceSub, Nat.reducePow] <;> omega

theorem begin_sound {octet : UInt8} (present : octet ≠ 0) :
    NulFree (begin octet).1 ∧ (begin octet).2.Sound := by
  have positive : 0 < octet.toNat := by
    rcases Nat.eq_zero_or_pos octet.toNat with zero | positive
    · exact absurd (UInt8.toNat_inj.1 zero) present
    · exact positive
  unfold begin
  split
  · next ascii =>
      refine ⟨?_, trivial⟩
      simp only [NulFree, List.mem_singleton, forall_eq]
      exact toNat_ofNat_ne_zero positive (by omega)
  · split
    · next announced => exact ⟨by simp [NulFree], lead?_sound announced⟩
    · exact ⟨by simp only [NulFree, List.mem_singleton, forall_eq]; decide, trivial⟩

theorem feed_sound {progress : Progress} {octet : UInt8} (sound : progress.Sound)
    (present : octet ≠ 0) :
    NulFree (feed progress octet).1 ∧ (feed progress octet).2.Sound := by
  cases progress with
  | start => exact begin_sound present
  | partly payload least greatest rest =>
      obtain ⟨lower, upper, positive, exists_⟩ := sound
      simp only [feed]
      split
      · next inside =>
          have low : octet.toNat % 64 = octet.toNat - 0x80 := by omega
          rw [low]
          cases rest with
          | zero =>
              refine ⟨?_, trivial⟩
              simp only [NulFree, List.mem_singleton, forall_eq]
              simp only [pow_zero, mul_one] at positive exists_
              exact toNat_ofNat_ne_zero (by omega) (by omega)
          | succ rest =>
              refine ⟨by simp [NulFree], ?_⟩
              -- one octet splits the range of numbers into sixty-four
              have least_le :
                  (64 * payload + (least - 0x80)) * 64 ^ (rest + 1) ≤
                    (64 * (64 * payload + (octet.toNat - 0x80)) + (0x80 - 0x80)) * 64 ^ rest := by
                rw [pow_succ', ← mul_assoc]
                exact Nat.mul_le_mul_right _ (by omega)
              have le_greatest :
                  (64 * (64 * payload + (octet.toNat - 0x80)) + (0xBF - 0x80) + 1) * 64 ^ rest ≤
                    (64 * payload + (greatest - 0x80) + 1) * 64 ^ (rest + 1) := by
                rw [pow_succ', ← mul_assoc]
                exact Nat.mul_le_mul_right _ (by omega)
              exact ⟨le_rfl, le_rfl, by omega, by omega⟩
      · have again := begin_sound present
        refine ⟨?_, again.2⟩
        intro c member
        rcases List.mem_cons.1 member with rfl | member
        · decide
        · exact again.1 c member

theorem run_nulFree {progress : Progress} {bytes : Bytes} (sound : progress.Sound)
    (present : 0 ∉ bytes) : NulFree (run progress bytes) := by
  induction bytes generalizing progress with
  | nil =>
      cases progress with
      | start => simp [run, NulFree]
      | partly => simp only [run, NulFree, List.mem_singleton, forall_eq]; decide
  | cons octet rest ih =>
      obtain ⟨first, others⟩ := not_or.1 (mt List.mem_cons.2 present)
      obtain ⟨free, next⟩ := feed_sound sound (Ne.symm first)
      have split : run progress (octet :: rest) =
          (feed progress octet).1 ++ run (feed progress octet).2 rest := by
        cases progress <;> rfl
      intro c member
      rw [split] at member
      rcases List.mem_append.1 member with member | member
      · exact free c member
      · exact ih next others c member

theorem zero_notMem_utf8EncodeChar {c : Char} (present : c.toNat ≠ 0) :
    (0 : UInt8) ∉ String.utf8EncodeChar c := by
  have valid := c.valid
  have number : c.val.toNat ≠ 0 := present
  simp only [UInt32.isValidChar, Nat.isValidChar] at valid
  unfold String.utf8EncodeChar
  generalize c.val.toNat = n at valid number
  simp only
  split_ifs <;>
    simp only [List.mem_cons, List.not_mem_nil, or_false, ← UInt8.toNat_inj, UInt8.toNat_ofNat',
      UInt8.toNat_zero] <;> omega

theorem zero_notMem_encode {text : List Char} (free : NulFree text) : 0 ∉ encode text := by
  intro member
  obtain ⟨c, inside, octet⟩ := List.mem_flatMap.1 member
  exact zero_notMem_utf8EncodeChar (free c inside) octet

end Utf8

namespace NativeText

theorem toString_of_ofString? {text : String} {native : NativeText}
    (handed : ofString? text = some native) : native.toString = text := by
  unfold ofString? ofBytes? at handed
  split at handed
  · cases handed
    exact Utf8.decode_ofString text
  · cases handed

/-- Valid text is handed over as the octets that it was read from. -/
theorem ofString?_toString {native : NativeText} {text : String}
    (valid : native.bytes = Utf8.ofString text) : ofString? native.toString = some native := by
  rw [toString, valid, Utf8.decode_ofString, ofString?, ← valid]
  exact dif_pos native.no_nul

/-- A text without NUL can be handed over, and the reader sees the same text. -/
theorem exists_ofString? {text : String} (free : NulFree text.toList) :
    ∃ native, ofString? text = some native ∧ native.toString = text := by
  have whole : ofString? text = some ⟨Utf8.ofString text, Utf8.zero_notMem_encode free⟩ :=
    dif_pos (Utf8.zero_notMem_encode free)
  exact ⟨_, whole, toString_of_ofString? whole⟩

/-- What a reader sees of a terminated text has no NUL. -/
theorem nulFree_toString (text : NativeText) : NulFree text.toString.toList := by
  rw [toString, Utf8.decode, String.toList_ofList]
  exact Utf8.run_nulFree trivial text.no_nul

theorem ofString?_eq_none {text : String} : ofString? text = none ↔ ¬ NulFree text.toList := by
  constructor
  · intro missing free
    obtain ⟨native, handed, -⟩ := exists_ofString? free
    cases missing.symm.trans handed
  · intro inside
    cases handed : ofString? text with
    | none => rfl
    | some native => exact absurd (toString_of_ofString? handed ▸ nulFree_toString native) inside

/-- In a text without NUL there is nothing to replace. -/
theorem toString_blankingNul {text : String} (free : NulFree text.toList) :
    (blankingNul text).toString = text := by
  have kept : (Utf8.ofString text).map (fun octet => if octet = 0 then 32 else octet) =
      Utf8.ofString text := by
    refine (List.map_congr_left fun octet member => ?_).trans (List.map_id _)
    refine if_neg ?_
    rintro rfl
    exact Utf8.zero_notMem_encode free member
  show Utf8.decode ((Utf8.ofString text).map fun octet => if octet = 0 then 32 else octet) = text
  rw [kept, Utf8.decode_ofString]

end NativeText

end ColumnStore
