import ColumnStore.Proofs.Except
import ColumnStore.TagLayout

/-!
# Going between tags and codes

A library without 128-bit integers has its later tags one below their codes, so a tag becomes a code
by adding one. As numbers without a limit that is `TagLayout.codeNumber`. A tag has 32 bits and
comes from the library unchecked: every tag but the greatest has a code of 32 bits
(`TagLayout.Fits`), and going on from the greatest stops the program, also where nothing but the
type that it names is asked for. Codes are in the order of the tags and lead back to them, and a tag
names a type exactly if the type has this tag.

Main result: `TagLayout.codes_of_tags`.
-/

set_option autoImplicit false

namespace ColumnStore

/-- Only the code of a type leads to the type. -/
theorem ColumnType.ofCode?_eq_some {code : Int32} {type : ColumnType} :
    ofCode? code = some type ↔ type.code = code := by
  constructor
  · intro found
    unfold ofCode? at found
    split at found
    · next nonnegative =>
        have codes : all.map (·.code.toInt) = (List.range 15).map Int.ofNat := by decide
        have here : (all.map (·.code.toInt))[code.toNatClampNeg]? = some type.code.toInt := by
          rw [List.getElem?_map, found, Option.map_some]
        rw [codes, List.getElem?_map, Option.map_eq_some_iff] at here
        obtain ⟨position, listed, same⟩ := here
        obtain ⟨_, rfl⟩ := List.getElem?_eq_some_iff.1 listed
        rw [List.getElem_range, Int32.toNatClampNeg] at same
        have lower := Int32.le_iff_toInt_le.1 nonnegative
        exact Int32.toInt_inj.1 (same.symm.trans (Int.toNat_of_nonneg lower))
    · cases found
  · rintro rfl
    exact ofCode?_code type

namespace TagLayout

variable {layout : TagLayout} {tag other code : Int32} {stop : Error}

/-- The code of a tag, for numbers without a limit. -/
def codeNumber (layout : TagLayout) (tag : Int) : Int :=
  if layout.hasInt128 = false ∧ lastSharedTag.toInt < tag then tag + 1 else tag

/-- The code of a tag has 32 bits as well. -/
def Fits (layout : TagLayout) (tag : Int32) : Prop :=
  layout.hasInt128 = true ∨ tag ≠ Int32.maxValue

theorem toInt_lastSharedTag : lastSharedTag.toInt = 4 := by
  decide

/-! ## Tags of both numberings -/

theorem toManaged_of_shared (shared : layout.hasInt128 = true ∨ tag ≤ lastSharedTag) :
    layout.toManaged tag = .ok tag := by
  refine if_neg fun shifted => ?_
  rw [Bool.and_eq_true, Bool.not_eq_true', decide_eq_true_eq] at shifted
  rcases shared with wide | low
  · exact Bool.noConfusion (wide.symm.trans shifted.1)
  · exact absurd low (Int32.not_le.2 shifted.2)

theorem toManaged_of_shifted (narrow : layout.hasInt128 = false) (high : lastSharedTag < tag) :
    layout.toManaged tag = next tag := by
  refine if_pos ?_
  rw [Bool.and_eq_true, Bool.not_eq_true', decide_eq_true_eq]
  exact ⟨narrow, high⟩

/-- A tag is in both numberings, or it is moved by one. -/
theorem shared_or_shifted (layout : TagLayout) (tag : Int32) :
    (layout.hasInt128 = true ∨ tag ≤ lastSharedTag) ∨
      layout.hasInt128 = false ∧ lastSharedTag < tag := by
  cases layout.hasInt128 with
  | true => exact .inl (.inl rfl)
  | false =>
      rcases Int32.le_or_lt tag lastSharedTag with low | high
      · exact .inl (.inr low)
      · exact .inr ⟨rfl, high⟩

theorem codeNumber_of_shared (shared : layout.hasInt128 = true ∨ tag ≤ lastSharedTag) :
    layout.codeNumber tag.toInt = tag.toInt := by
  refine if_neg fun shifted => ?_
  rcases shared with wide | low
  · exact Bool.noConfusion (wide.symm.trans shifted.1)
  · exact absurd low (Int32.not_le.2 (Int32.lt_iff_toInt_lt.2 shifted.2))

theorem codeNumber_of_shifted (narrow : layout.hasInt128 = false) (high : lastSharedTag < tag) :
    layout.codeNumber tag.toInt = tag.toInt + 1 :=
  if_pos ⟨narrow, Int32.lt_iff_toInt_lt.1 high⟩

theorem Fits.of_shared (shared : layout.hasInt128 = true ∨ tag ≤ lastSharedTag) :
    layout.Fits tag := by
  refine shared.imp_right fun low => ?_
  rintro rfl
  revert low
  decide

theorem Fits.of_lt (less : tag < other) : layout.Fits tag := by
  refine .inr ?_
  rintro rfl
  exact absurd (Int32.lt_iff_toInt_lt.1 less) (Int.not_lt.2 other.toInt_le)

/-! ## The next tag -/

/-- Every tag but the greatest has a next one. -/
theorem toInt_next (below : tag ≠ Int32.maxValue) : (tag + 1).toInt = tag.toInt + 1 := by
  have lower := tag.le_toInt
  have upper := tag.toInt_lt
  have apart : tag.toInt ≠ Int32.maxValue.toInt := fun same => below (Int32.toInt_inj.1 same)
  rw [Int32.toInt_maxValue] at apart
  rw [Int32.toInt_add, show (1 : Int32).toInt = 1 from rfl]
  exact Int.bmod_eq_of_le (by omega) (by omega)

theorem next_eq_ok : next tag = .ok code ↔ code.toInt = tag.toInt + 1 := by
  unfold next
  split
  · next greatest =>
      subst greatest
      have upper := code.toInt_lt
      rw [Int32.toInt_maxValue]
      refine iff_of_false nofun ?_
      omega
  · next below =>
      rw [← toInt_next below, Int32.toInt_inj, Except.ok.injEq]
      exact eq_comm

theorem next_eq_error : next tag = .error stop ↔ tag = Int32.maxValue ∧ stop = .overflow := by
  unfold next
  split
  · next greatest => simp [greatest, eq_comm]
  · next below => simp [below]

/-! ## Codes of tags -/

/-- **The code of a tag is exact.** -/
theorem toManaged_eq_ok :
    layout.toManaged tag = .ok code ↔ code.toInt = layout.codeNumber tag.toInt := by
  rcases layout.shared_or_shifted tag with shared | ⟨narrow, high⟩
  · rw [toManaged_of_shared shared, codeNumber_of_shared shared, Int32.toInt_inj, Except.ok.injEq]
    exact eq_comm
  · rw [toManaged_of_shifted narrow high, codeNumber_of_shifted narrow high]
    exact next_eq_ok

/-- **A tag has no code if it is the greatest** and has to be moved. -/
theorem toManaged_eq_error :
    layout.toManaged tag = .error stop ↔ ¬ layout.Fits tag ∧ stop = .overflow := by
  rcases layout.shared_or_shifted tag with shared | ⟨narrow, high⟩
  · rw [toManaged_of_shared shared]
    exact iff_of_false nofun fun unfit => unfit.1 (.of_shared shared)
  · rw [toManaged_of_shifted narrow high, next_eq_error]
    simp [Fits, narrow]

theorem exists_code (fits : layout.Fits tag) : ∃ code, layout.toManaged tag = .ok code := by
  cases coded : layout.toManaged tag with
  | ok code => exact ⟨code, rfl⟩
  | error stop => exact absurd fits (toManaged_eq_error.1 coded).1

theorem codeNumber_lt_codeNumber {small large : Int} (less : small < large) :
    layout.codeNumber small < layout.codeNumber large := by
  obtain ⟨wide⟩ := layout
  cases wide with
  | true => exact less
  | false =>
      simp only [codeNumber, true_and]
      split <;> split <;> omega

/-- **Codes are in the order of the tags**: below a tag with a code all tags have lower ones. -/
theorem exists_code_lt (coded : layout.toManaged tag = .ok code) (less : other < tag) :
    ∃ lower, layout.toManaged other = .ok lower ∧ lower < code := by
  have fits : layout.Fits other := .of_lt less
  obtain ⟨lower, below⟩ := exists_code fits
  refine ⟨lower, below, Int32.lt_iff_toInt_lt.2 ?_⟩
  rw [toManaged_eq_ok.1 below, toManaged_eq_ok.1 coded]
  exact codeNumber_lt_codeNumber (Int32.lt_iff_toInt_lt.1 less)

/-- No tag is the one of 128-bit integers where there are none. -/
theorem code_ne_int128 (narrow : layout.hasInt128 = false)
    (coded : layout.toManaged tag = .ok code) : code ≠ (ColumnType.integer .int128).code := by
  rintro rfl
  have exact := toManaged_eq_ok.1 coded
  rw [codeNumber, show (ColumnType.integer .int128).code.toInt = 5 from rfl,
    toInt_lastSharedTag] at exact
  split at exact
  · omega
  · next unshifted => exact unshifted ⟨narrow, by omega⟩

/-- **The code of a tag leads back to the tag.** -/
theorem toNative_of_toManaged (coded : layout.toManaged tag = .ok code) :
    layout.toNative code = .ok tag := by
  rcases layout.shared_or_shifted tag with shared | ⟨narrow, high⟩
  · rw [toManaged_of_shared shared] at coded
    cases coded
    refine if_pos ?_
    rwa [Bool.or_eq_true, decide_eq_true_eq]
  · have apart := code_ne_int128 narrow coded
    rw [toManaged_of_shifted narrow high] at coded
    have above : lastSharedTag.toInt < tag.toInt := Int32.lt_iff_toInt_lt.1 high
    have later : ¬(layout.hasInt128 || decide (code ≤ lastSharedTag)) = true := by
      have exact := next_eq_ok.1 coded
      rw [narrow, Bool.false_or, decide_eq_true_eq, Int32.le_iff_toInt_le]
      omega
    have after : code = tag + 1 := by
      unfold next at coded
      split at coded
      · cases coded
      · exact (Except.ok.inj coded).symm
    rw [toNative, if_neg later, if_neg apart, after, Int32.add_sub_cancel]

/-! ## Types of tags -/

/-- A tag names its type again. -/
theorem decode?_encode {type : ColumnType} (encoded : layout.encode type = .ok tag) :
    layout.decode? tag = .ok (some type) := by
  obtain ⟨wide⟩ := layout
  rcases type with (_ | kind | _ | _) | kind | _
  case fixed.integer => cases wide <;> cases kind <;> cases encoded <;> rfl
  case boxed => cases wide <;> cases kind <;> cases encoded <;> rfl
  all_goals cases wide <;> cases encoded <;> rfl

/-- **A tag names a type exactly if the type has this tag.** -/
theorem decode?_eq_some {type : ColumnType} :
    layout.decode? tag = .ok (some type) ↔ layout.encode type = .ok tag := by
  refine ⟨fun found => ?_, decode?_encode⟩
  unfold decode? at found
  split at found
  · cases found
  · obtain ⟨code, coded, named⟩ := Except.map_eq_ok.1 found
    rw [encode, ColumnType.ofCode?_eq_some.1 named]
    exact toNative_of_toManaged coded

/-- Looking for the type of a tag stops the program where looking for its code does. -/
theorem decode?_eq_error :
    layout.decode? tag = .error stop ↔ ¬ layout.Fits tag ∧ stop = .overflow := by
  unfold decode?
  split
  · next negative => exact iff_of_false nofun fun unfit => unfit.1 (.of_lt negative)
  · rw [Except.map_eq_error, toManaged_eq_error]

/-- What a tag names is what the code without a limit names. -/
theorem eq_getElem?_of_decode? {named : Option ColumnType}
    (decoded : layout.decode? tag = .ok named) :
    named = if tag < 0 then none else ColumnType.all[(layout.codeNumber tag.toInt).toNat]? := by
  unfold decode? at decoded
  split at decoded
  · next negative =>
      cases decoded
      exact (if_pos negative).symm
  · next nonnegative =>
      obtain ⟨code, coded, rfl⟩ := Except.map_eq_ok.1 decoded
      have exact := toManaged_eq_ok.1 coded
      have positive : 0 ≤ code := by
        have start : 0 ≤ tag.toInt := Int32.le_iff_toInt_le.1 (Int32.not_lt.1 nonnegative)
        rw [Int32.le_iff_toInt_le, exact, codeNumber]
        split <;> simp only [Int32.toInt_zero] <;> omega
      rw [if_neg nonnegative, ColumnType.ofCode?, if_pos positive, Int32.toNatClampNeg, exact]

/-- **Tags are numbered exactly, and the greatest stops the program** where there are no 128-bit
integers, since its code has no 32 bits. Codes are in the order of the tags, leave out that of the
128-bit integers where there are none and lead back to the tags; what a tag names is exactly the
type that has this tag. -/
theorem codes_of_tags (layout : TagLayout) (tag : Int32) :
    (∀ stop, layout.toManaged tag = .error stop ↔ ¬ layout.Fits tag ∧ stop = .overflow) ∧
      (∀ stop, layout.decode? tag = .error stop ↔ ¬ layout.Fits tag ∧ stop = .overflow) ∧
      (∀ code, layout.toManaged tag = .ok code →
        code.toInt = layout.codeNumber tag.toInt ∧
          (∀ other, other < tag → ∃ lower, layout.toManaged other = .ok lower ∧ lower < code) ∧
          (layout.hasInt128 = false → code ≠ (ColumnType.integer .int128).code) ∧
          layout.toNative code = .ok tag) ∧
      (∀ named, layout.decode? tag = .ok named → named =
        if tag < 0 then none else ColumnType.all[(layout.codeNumber tag.toInt).toNat]?) ∧
      ∀ type, layout.decode? tag = .ok (some type) ↔ layout.encode type = .ok tag :=
  ⟨fun _ => toManaged_eq_error, fun _ => decode?_eq_error,
    fun _ coded => ⟨toManaged_eq_ok.1 coded, fun _ less => exists_code_lt coded less,
      fun narrow => code_ne_int128 narrow coded, toNative_of_toManaged coded⟩,
    fun _ decoded => eq_getElem?_of_decode? decoded, fun _ => decode?_eq_some⟩

/-- Around the gap that 128-bit integers leave, the tags 4 and 5 are those of the types before and
behind it. -/
theorem codes_of_tags_gap :
    (∃ lower, toManaged ⟨false⟩ 4 = .ok lower ∧ lower < 6) ∧
      (6 : Int32) ≠ (ColumnType.integer .int128).code ∧ toNative ⟨false⟩ 6 = .ok 5 ∧
      some (ColumnType.integer .size) = ColumnType.all[(codeNumber ⟨false⟩ 5).toNat]? ∧
      encode ⟨false⟩ (.integer .size) = .ok 5 := by
  obtain ⟨-, -, coded, decoded, named⟩ := codes_of_tags ⟨false⟩ 5
  obtain ⟨-, increasing, apart, back⟩ := coded 6 rfl
  exact ⟨increasing 4 (by decide), apart rfl, back, decoded _ rfl, (named (.integer .size)).1 rfl⟩

/-- The greatest tag is the tag of no type, and yet looking for its code or its type stops the
program. -/
theorem exists_tag_stops :
    ∃ tag : Int32, (∀ type, encode ⟨false⟩ type ≠ .ok tag) ∧
      toManaged ⟨false⟩ tag = .error .overflow ∧ decode? ⟨false⟩ tag = .error .overflow := by
  refine ⟨2147483647, fun type encoded => ?_, rfl, rfl⟩
  cases decode?_encode encoded

end TagLayout

end ColumnStore
