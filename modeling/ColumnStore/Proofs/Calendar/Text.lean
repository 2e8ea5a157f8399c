import ColumnStore.Proofs.Calendar.Reading

/-!
# Dates and times read as they are shown

The text that a date, a time or a timestamp is shown as is not the interchange form, and some of
it is lost when it is read. A year after 9999 is shown without a sign, but without a sign only four
digits of a year are read, and what is left of it stands where a hyphen should. The nanoseconds of
a leap second are shown with ten digits, of which nine are read, so that another time is
(`Time.reread`). Everything else is read as itself.

Main results: `readDate?_text`, `readTime?_text` and `readTimestamp?_text`.
-/

set_option autoImplicit false

namespace ColumnStore

/-- The time that is read from the text of a time: a tenth digit of its nanoseconds is dropped. -/
def Time.reread (time : Time) : Time :=
  if time.nano < Calendar.nanosPerSecond then time
  else
    { time with
      nano := time.nano / 10
      nano_lt := .inl (by
        have fits := time.nano_lt
        rw [show Calendar.nanosPerSecond = 1000000000 from rfl] at fits ⊢
        omega) }

theorem Time.reread_eq_self_iff {time : Time} :
    time.reread = time ↔ time.nano < Calendar.nanosPerSecond := by
  unfold reread
  split
  · next short => simp [short]
  · next long =>
      have unit : Calendar.nanosPerSecond = 1000000000 := rfl
      refine iff_of_false (fun same => ?_) long
      have nano : time.nano / 10 = time.nano := congrArg Time.nano same
      omega

namespace Calendar

open Digits (OnlyDigits)

/-! ## Years -/

/-- Years up to 9999 are read as they are shown, also negative ones. -/
theorem readYear_paddedInt {year : Int} (short : year ≤ 9999) {rest : List Char}
    (ends : NoDigitFirst rest) :
    readYear (Digits.paddedInt 4 year ++ rest) = some (year, rest) := by
  unfold Digits.paddedInt
  split_ifs with negative
  · rw [List.cons_append, readYear_minus 3 _ ends]
    congr
    omega
  · rw [readYear_padded (by omega), Int.natAbs_of_nonneg (by omega)]

theorem dropWhile_paddedInt (year : Int) (rest : List Char) :
    (Digits.paddedInt 4 year ++ rest).dropWhile CharacterClass.isBlank =
      Digits.paddedInt 4 year ++ rest := by
  unfold Digits.paddedInt
  split_ifs
  · rfl
  · exact dropWhile_padded _ _ _

/-- Of more digits without a sign four are read, and another one is left. -/
theorem exists_readYear_of_long {digits : List Char} (only : OnlyDigits digits)
    (long : 4 < digits.length) (rest : List Char) :
    ∃ year c others, readYear (digits ++ rest) = some (year, c :: others) ∧
      Digits.isDigit c := by
  obtain ⟨first, second, third, fourth, c, others, rfl⟩ : ∃ first second third fourth c others,
      digits = first :: second :: third :: fourth :: c :: others := by
    rcases digits with _ | ⟨_, _ | ⟨_, _ | ⟨_, _ | ⟨_, _ | ⟨_, _⟩⟩⟩⟩⟩ <;> simp at long ⊢
  have part : OnlyDigits [first, second, third, fourth] :=
    only.of_subset (List.subset_append_left _ (c :: others))
  have read : readNumber 4 ([first, second, third, fourth] ++ c :: (others ++ rest)) = _ :=
    readNumber_append (List.cons_ne_nil _ _) part (Nat.le_refl 4) (.inl rfl)
  refine ⟨Digits.toNat [first, second, third, fourth], c, others ++ rest, ?_, only c (by simp)⟩
  show readYear (first :: ([second, third, fourth] ++ c :: (others ++ rest))) = _
  rw [readYear_of_isDigit (only first List.mem_cons_self)]
  exact congrArg (Option.map _) read

theorem length_paddedInt {year : Int} (wide : 9999 < year) :
    4 < (Digits.padded 4 year.natAbs).length := by
  have digits : ¬ (Digits.ofNat year.natAbs).length ≤ 4 := by
    rw [Digits.ofNat, Nat.length_toDigits_le_iff (by decide) (by decide)]
    omega
  rw [Digits.padded, Digits.length_padLeft]
  omega

/-- A longer year is not read to its end. -/
theorem exists_readYear_wide {year : Int} (wide : 9999 < year) (rest : List Char) :
    ∃ read c others, readYear (Digits.paddedInt 4 year ++ rest) = some (read, c :: others) ∧
      Digits.isDigit c := by
  rw [Digits.paddedInt, if_neg (by omega)]
  exact exists_readYear_of_long (Digits.onlyDigits_padded 4 _) (length_paddedInt wide) rest

/-! ## Dates -/

/-- The fields of a date that is shown with up to four digits of its year. -/
theorem read_shownDate {date : Date} (short : date.year ≤ 9999) (fields : Fields)
    (rest : List Char) :
    Pattern.read datePattern fields (date.text.toList ++ rest) =
      some ({ fields with year := date.year, month := date.month, day := date.day }, rest) := by
  rw [Date.text, String.toList_ofList]
  exact read_textWithYear date fields (dropWhile_paddedInt _)
    (fun _ ends => readYear_paddedInt short ends) rest

theorem read_literal_of_ne {expected c : Char} (other : c ≠ expected) (fields : Fields)
    (rest : List Char) : (Item.literal expected).read fields (c :: rest) = none := by
  simp [Item.read, other]

/-- A date that is shown with more digits is not read. -/
theorem read_wideDate {date : Date} (wide : 9999 < date.year) (fields : Fields)
    (rest : List Char) :
    Pattern.read datePattern fields (date.text.toList ++ rest) = none := by
  rw [Date.text, String.toList_ofList, Date.textWithYear]
  simp only [List.append_assoc, List.cons_append]
  obtain ⟨year, c, others, read, digit⟩ := exists_readYear_wide wide
    ('-' :: (Digits.padded 2 date.month ++ '-' :: (Digits.padded 2 date.day ++ rest)))
  have hyphen : c ≠ '-' := by
    rintro rfl
    cases digit
  rw [datePattern, Pattern.read_cons (read_year _ (dropWhile_paddedInt _ _) read), Pattern.read,
    read_literal_of_ne hyphen]
  rfl

theorem solid_shownDate (date : Date) : Solid date.text.toList := by
  have year : Solid (Digits.paddedInt 4 date.year) := by
    unfold Digits.paddedInt
    split_ifs
    · simp
      decide
    · simp
  rw [Date.text, String.toList_ofList]
  exact solid_textWithYear date year

/-- **A date is read as it is shown** up to the year 9999; a later one is not read. -/
theorem readDate?_text (date : Date) :
    readDate? date.text = if date.year ≤ 9999 then some date else none := by
  rw [readDate?, trimBlanks_of_solid (solid_shownDate date), Pattern.readAll,
    ← List.append_nil date.text.toList]
  split_ifs with short
  · rw [read_shownDate short]
    exact date.ofParts?_self
  · rw [read_wideDate (by omega)]
    rfl

/-! ## Times -/

/-- Ten digits are nine and the last one. -/
theorem exists_padded_eq_append {nano : Nat} (long : nanosPerSecond ≤ nano)
    (fits : nano < 10 * nanosPerSecond) :
    ∃ last, Digits.padded 9 nano = Digits.ofNat (nano / 10) ++ [last] ∧
      (Digits.ofNat (nano / 10)).length = 9 := by
  have unit : nanosPerSecond = 1000000000 := rfl
  have most : (Digits.ofNat (nano / 10)).length ≤ 9 :=
    (Nat.length_toDigits_le_iff (by decide) (by decide)).2 (by omega)
  have least : ¬ (Digits.ofNat (nano / 10)).length ≤ 8 := by
    rw [Digits.ofNat, Nat.length_toDigits_le_iff (by decide) (by decide)]
    omega
  have nine : (Digits.ofNat (nano / 10)).length = 9 := by omega
  have digits : Digits.ofNat nano = Digits.ofNat (nano / 10) ++ [(nano % 10).digitChar] :=
    Nat.toDigits_of_base_le (by decide) (by omega)
  refine ⟨(nano % 10).digitChar, ?_, nine⟩
  rw [Digits.padded, Digits.padLeft, digits, List.length_append, nine]
  rfl

/-- Nine digits of the nanoseconds are read. -/
theorem readFraction_nano (time : Time) :
    readFraction ('.' :: Digits.padded 9 time.nano) = some (time.reread.nano, []) := by
  have unit : nanosPerSecond = 1000000000 := rfl
  have fits := time.nano_lt
  have only := Digits.onlyDigits_padded 9 time.nano
  unfold Time.reread
  split
  · next short =>
      rw [readFraction_padded (by decide) (by decide) (by omega)]
      simp
  · next long =>
      have least : nanosPerSecond ≤ time.nano := by omega
      obtain ⟨last, split, nine⟩ := exists_padded_eq_append least (by omega)
      rw [split] at only ⊢
      have spare := (Digits.onlyDigits_append.1 only).2
      rw [readFraction_append (Digits.ofNat_ne_nil _) (Digits.onlyDigits_ofNat _) spare nine.le
        (.inl nine), Digits.toNat_padRight, Digits.toNat_ofNat, nine]
      simp

/-- The fields of a time that is shown; a leap second is not second 60 there. -/
theorem read_shownTime (time : Time) (fields : Fields) :
    Pattern.read timePattern fields time.text.toList =
      some ({ fields with
        hour := time.hour
        minute := time.minute
        second := time.second
        nano := time.reread.nano }, []) := by
  have second := time.second_lt
  rw [Time.text, String.toList_ofList]
  exact read_clock time.hour_lt time.minute_lt (by omega) (readFraction_nano time) fields

theorem time?_of_reread {fields : Fields} {time : Time} (hour : fields.hour = time.hour)
    (minute : fields.minute = time.minute) (second : fields.second = time.second)
    (nano : fields.nano = time.reread.nano) : fields.time? = some time.reread := by
  have bound := time.second_lt
  have same : time.reread.hour = time.hour ∧ time.reread.minute = time.minute ∧
      time.reread.second = time.second := by
    unfold Time.reread
    split <;> exact ⟨rfl, rfl, rfl⟩
  rw [Fields.time?, if_neg (by omega), hour, minute, second, nano, ← same.1, ← same.2.1,
    ← same.2.2]
  exact time.reread.ofParts?_self

theorem solid_shownTime (time : Time) : Solid time.text.toList := by
  rw [Time.text, String.toList_ofList, solid_append, solid_cons]
  exact ⟨solid_clock _ _ _, by decide, solid_padded _ _⟩

/-- **A time is read as it is shown**, less a tenth digit of its nanoseconds. -/
theorem readTime?_text (time : Time) : readTime? time.text = some time.reread := by
  rw [readTime?, trimBlanks_of_solid (solid_shownTime time), Pattern.readAll, read_shownTime]
  exact time?_of_reread rfl rfl rfl rfl

/-! ## Timestamps -/

theorem toList_timestamp (timestamp : Timestamp) :
    timestamp.text.toList = timestamp.date.text.toList ++ 'T' :: timestamp.time.text.toList := by
  simp [Timestamp.text]

theorem solid_shownTimestamp (timestamp : Timestamp) : Solid timestamp.text.toList := by
  rw [toList_timestamp, solid_append, solid_cons]
  exact ⟨solid_shownDate _, by decide, solid_shownTime _⟩

/-- Where a `T` stands no time begins. -/
theorem read_hour_of_letter (fields : Fields) (rest : List Char) :
    Pattern.read (.blanks :: timePattern) fields ('T' :: rest) = none := by
  have kept : ('T' :: rest).dropWhile CharacterClass.isBlank = 'T' :: rest := rfl
  have blanks : Item.blanks.read fields ('T' :: rest) = some (fields, 'T' :: rest) := rfl
  rw [Pattern.read_cons blanks, timePattern, Pattern.read]
  simp only [Item.read, kept]
  rfl

/-- What is left to read behind the date. -/
theorem read_behindDate {date : Date} (short : date.year ≤ 9999) (separator : Item)
    (rest : List Char) :
    Pattern.read (datePattern ++ separator :: timePattern) {} (date.text.toList ++ rest) =
      Pattern.read (separator :: timePattern)
        ⟨date.year, date.month, date.day, 0, 0, 0, 0⟩ rest := by
  rw [Pattern.read_append, read_shownDate short]
  rfl

/-- **A timestamp is read as it is shown** up to the year 9999, less a tenth digit of its
nanoseconds. -/
theorem readTimestamp?_text (timestamp : Timestamp) :
    readTimestamp? timestamp.text =
      if timestamp.date.year ≤ 9999 then some ⟨timestamp.date, timestamp.time.reread⟩
      else none := by
  obtain ⟨date, time⟩ := timestamp
  have clock : Fields.time? ⟨date.year, date.month, date.day, time.hour, time.minute, time.second,
      time.reread.nano⟩ = some time.reread := time?_of_reread rfl rfl rfl rfl
  rw [readTimestamp?, trimBlanks_of_solid (solid_shownTimestamp _), toList_timestamp]
  dsimp only
  split_ifs with short
  · have blank : readParts? .blanks (date.text.toList ++ 'T' :: time.text.toList) = none := by
      rw [readParts?, Pattern.readAll, read_behindDate short, read_hour_of_letter]
      rfl
    have letter : readParts? (.literal 'T') (date.text.toList ++ 'T' :: time.text.toList) =
        some ⟨date, time.reread⟩ := by
      rw [readParts?, Pattern.readAll, read_behindDate short,
        Pattern.read_cons (read_literal _ _ _), read_shownTime]
      simp only [Option.bind_eq_bind, Option.bind_some, Fields.timestamp?, clock, Fields.date?,
        date.ofParts?_self]
      rfl
    rw [blank, letter]
    rfl
  · have unread (separator : Item) :
        readParts? separator (date.text.toList ++ 'T' :: time.text.toList) = none := by
      rw [readParts?, Pattern.readAll, Pattern.read_append, read_wideDate (by omega)]
      rfl
    rw [unread, unread]
    rfl

end Calendar

end ColumnStore
