import ColumnStore.Calendar.Reading
import ColumnStore.Proofs.Number.Digits
import Mathlib.Data.List.Basic
import Mathlib.Data.List.TakeWhile

/-!
# Dates and times read as they are written

A date, a time or a timestamp as interchange formats write it is read as itself: years before
zero and after 9999 behind their sign, leap seconds as second 60, fractions to the nanosecond.
Reading goes through a pattern from left to right, and what is written for one item is read by
this item whatever stands behind it, as long as that does not begin with another digit.

Main results: `readDate?_interchangeText`, `readTime?_interchangeText` and
`readTimestamp?_interchangeText`.
-/

set_option autoImplicit false

namespace ColumnStore

namespace Date

theorem month_le (date : Date) : date.month ≤ 12 := by
  have exists_ := date.day_exists
  unfold Calendar.daysIn at exists_
  split at exists_ <;> omega

theorem day_le (date : Date) : date.day ≤ 31 := by
  have exists_ := date.day_exists
  unfold Calendar.daysIn at exists_
  split at exists_ <;> first | omega | (split at exists_ <;> omega)

theorem ofParts?_self (date : Date) : ofParts? date.year date.month date.day = some date := by
  rw [ofParts?, dif_pos date.year_fits, dif_pos date.day_exists]

end Date

theorem Time.ofParts?_self (time : Time) :
    ofParts? time.hour time.minute time.second time.nano = some time := by
  rw [ofParts?, dif_pos time.hour_lt, dif_pos time.minute_lt, dif_pos time.second_lt,
    dif_pos time.nano_lt]

namespace Calendar

open Digits (OnlyDigits)

/-! ## Numbers -/

/-- The text does not begin with a digit. -/
def NoDigitFirst (text : List Char) : Prop :=
  ∀ c, text.head? = some c → Digits.isDigit c = false

theorem noDigitFirst_nil : NoDigitFirst [] := nofun

theorem noDigitFirst_cons {c : Char} (other : Digits.isDigit c = false) (text : List Char) :
    NoDigitFirst (c :: text) := by
  intro first head
  cases head
  exact other

section Numbers

variable {places : Nat} {digits rest : List Char}

/-- A run of digits ends where its places end or where no digit follows. -/
theorem digitRun_append (only : OnlyDigits digits) (fits : digits.length ≤ places)
    (ends : digits.length = places ∨ NoDigitFirst rest) :
    digitRun places (digits ++ rest) = (digits, rest) := by
  have run : ((digits ++ rest).take places).takeWhile Digits.isDigit = digits := by
    rw [List.take_append, List.take_of_length_le fits, List.takeWhile_append_of_pos only]
    suffices (rest.take (places - digits.length)).takeWhile Digits.isDigit = [] by
      rw [this, List.append_nil]
    rcases ends with full | stop
    · rw [full, Nat.sub_self, List.take_zero, List.takeWhile_nil]
    · cases rest with
      | nil => rw [List.take_nil, List.takeWhile_nil]
      | cons c rest =>
          cases places - digits.length with
          | zero => rw [List.take_zero, List.takeWhile_nil]
          | succ more =>
              rw [List.take_succ_cons, List.takeWhile_cons_of_neg (by simp [stop c rfl])]
  rw [digitRun, run, List.drop_left]

theorem readNumber_append (some_ : digits ≠ []) (only : OnlyDigits digits)
    (fits : digits.length ≤ places) (ends : digits.length = places ∨ NoDigitFirst rest) :
    readNumber places (digits ++ rest) = some (Digits.toNat digits, rest) := by
  rw [readNumber, digitRun_append only fits ends]
  cases digits with
  | nil => exact absurd rfl some_
  | cons c others => rfl

/-- A number that is padded to the places of its field is read whatever follows it. -/
theorem readNumber_padded {n : Nat} (positive : 0 < places) (fits : n < 10 ^ places) :
    readNumber places (Digits.padded places n ++ rest) = some (n, rest) := by
  have length := Digits.length_padded positive fits
  rw [readNumber_append (Digits.padded_ne_nil _ _) (Digits.onlyDigits_padded _ _) length.le
    (.inl length), Digits.toNat_padded]

end Numbers

theorem isBlank_of_isDigit {c : Char} (digit : Digits.isDigit c = true) :
    CharacterClass.isBlank c = false := by
  simp only [Digits.isDigit, Bool.and_eq_true, decide_eq_true_eq] at digit
  have least : '0'.toNat ≤ c.toNat := digit.1
  have greatest : c.toNat ≤ '9'.toNat := digit.2
  have numbers : '0'.toNat = 48 ∧ '9'.toNat = 57 := by decide
  simp only [CharacterClass.isBlank, Bool.or_eq_false_iff, Bool.and_eq_false_iff,
    decide_eq_false_iff_not]
  omega

theorem exists_padded_eq_cons (width n : Nat) :
    ∃ c others, Digits.padded width n = c :: others ∧ Digits.isDigit c = true := by
  have only := Digits.onlyDigits_padded width n
  cases digits : Digits.padded width n with
  | nil => exact absurd digits (Digits.padded_ne_nil width n)
  | cons c others =>
      rw [digits] at only
      exact ⟨c, others, rfl, only c List.mem_cons_self⟩

theorem dropWhile_padded (width n : Nat) (rest : List Char) :
    (Digits.padded width n ++ rest).dropWhile CharacterClass.isBlank =
      Digits.padded width n ++ rest := by
  obtain ⟨c, others, digits, digit⟩ := exists_padded_eq_cons width n
  rw [digits, List.cons_append, List.dropWhile_cons_of_neg (by simp [isBlank_of_isDigit digit])]

/-! ## Items -/

theorem read_literal (c : Char) (fields : Fields) (rest : List Char) :
    (Item.literal c).read fields (c :: rest) = some (fields, rest) := by
  simp [Item.read]

/-- A number of two digits is read by its item. -/
theorem read_padded {field : Field} (two : field ≠ .year) {n : Nat} (fits : n < 100)
    (fields : Fields) (rest : List Char) :
    (Item.number field).read fields (Digits.padded 2 n ++ rest) =
      (field.store n fields).map fun fields => (fields, rest) := by
  have places : field.places = 2 := by cases field <;> first | rfl | exact absurd rfl two
  have read : readNumber 2 (Digits.padded 2 n ++ rest) = some (n, rest) :=
    readNumber_padded (by decide) fits
  simp only [Item.read, dropWhile_padded, Option.bind_eq_bind]
  rw [places, read, Option.map_some, Option.bind_some]
  cases field.store n fields <;> rfl

/-- Without a sign a year has four digits. -/
theorem readYear_of_isDigit {c : Char} (digit : Digits.isDigit c = true) (text : List Char) :
    readYear (c :: text) = (readNumber 4 (c :: text)).map fun (n, rest) => ((n : Int), rest) := by
  unfold readYear
  split
  · next same =>
      cases same
      cases digit
  · next same =>
      cases same
      cases digit
  · rfl

/-- A year of four digits. -/
theorem readYear_padded {n : Nat} (fits : n < 10 ^ 4) (rest : List Char) :
    readYear (Digits.padded 4 n ++ rest) = some ((n : Int), rest) := by
  have read : readNumber 4 (Digits.padded 4 n ++ rest) = some (n, rest) :=
    readNumber_padded (by decide) fits
  obtain ⟨c, others, digits, digit⟩ := exists_padded_eq_cons 4 n
  rw [digits, List.cons_append] at read ⊢
  rw [readYear_of_isDigit digit, read, Option.map_some]

section SignedYear

variable (width n : Nat) {rest : List Char}

/-- Behind a sign all digits that there are belong to the year. -/
theorem readNumber_padded_all (ends : NoDigitFirst rest) :
    readNumber (Digits.padded width n ++ rest).length (Digits.padded width n ++ rest) =
      some (n, rest) := by
  rw [readNumber_append (Digits.padded_ne_nil _ _) (Digits.onlyDigits_padded _ _) (by simp)
    (.inr ends), Digits.toNat_padded]

theorem readYear_minus (ends : NoDigitFirst rest) :
    readYear ('-' :: (Digits.padded width n ++ rest)) = some (-(n : Int), rest) := by
  simp only [readYear, readNumber_padded_all width n ends, Option.map_some]

theorem readYear_plus (ends : NoDigitFirst rest) :
    readYear ('+' :: (Digits.padded width n ++ rest)) = some ((n : Int), rest) := by
  simp only [readYear, readNumber_padded_all width n ends, Option.map_some]

end SignedYear

/-- A year is read as interchange formats write it. -/
theorem readYear_signedYear (year : Int) {rest : List Char} (ends : NoDigitFirst rest) :
    readYear (Date.signedYear year ++ rest) = some (year, rest) := by
  unfold Date.signedYear
  split_ifs with short negative
  · rw [readYear_padded (by omega), Int.natAbs_of_nonneg short.1]
  · rw [List.cons_append, readYear_minus 4 _ ends]
    congr
    omega
  · rw [List.cons_append, readYear_plus 4 _ ends]
    congr
    omega

theorem dropWhile_signedYear (year : Int) (rest : List Char) :
    (Date.signedYear year ++ rest).dropWhile CharacterClass.isBlank =
      Date.signedYear year ++ rest := by
  unfold Date.signedYear
  split_ifs
  · exact dropWhile_padded _ _ _
  · rfl
  · rfl

/-- A year that has no blank in front is read by its item. -/
theorem read_year {year : Int} {text rest : List Char} (fields : Fields)
    (first : text.dropWhile CharacterClass.isBlank = text)
    (read : readYear text = some (year, rest)) :
    (Item.number .year).read fields text = some ({ fields with year }, rest) := by
  simp only [Item.read, first, read, Option.bind_eq_bind, Option.bind_some, Field.store]
  rfl

/-! ## Patterns -/

theorem Pattern.read_append (first second : Pattern) (fields : Fields) (text : List Char) :
    Pattern.read (first ++ second) fields text =
      (first.read fields text).bind fun (fields, rest) => second.read fields rest := by
  induction first generalizing fields text with
  | nil => rfl
  | cons item pattern ih =>
      simp only [List.cons_append, Pattern.read, ih, Option.bind_eq_bind, Option.bind_assoc]

theorem Pattern.read_cons {item : Item} {pattern : Pattern} {fields next : Fields}
    {text rest : List Char} (read : item.read fields text = some (next, rest)) :
    Pattern.read (item :: pattern) fields text = pattern.read next rest := by
  rw [Pattern.read, read]
  rfl

/-- The fields of a date behind whose year nothing more is read as part of it. -/
theorem read_textWithYear (date : Date) {year : List Char} (fields : Fields)
    (first : ∀ rest, (year ++ rest).dropWhile CharacterClass.isBlank = year ++ rest)
    (read : ∀ rest, NoDigitFirst rest → readYear (year ++ rest) = some (date.year, rest))
    (rest : List Char) :
    Pattern.read datePattern fields (date.textWithYear year ++ rest) =
      some ({ fields with year := date.year, month := date.month, day := date.day }, rest) := by
  have month := date.month_le
  have day := date.day_le
  have hyphen := noDigitFirst_cons (c := '-') (by decide)
  simp only [Date.textWithYear, List.append_assoc, List.cons_append]
  rw [datePattern, Pattern.read_cons (read_year _ (first _) (read _ (hyphen _))),
    Pattern.read_cons (read_literal _ _ _),
    Pattern.read_cons (read_padded (by decide) (by omega) _ _),
    Pattern.read_cons (read_literal _ _ _),
    Pattern.read_cons (read_padded (by decide) (by omega) _ _)]
  rfl

/-- The fields of a written date. -/
theorem read_datePattern (date : Date) (fields : Fields) (rest : List Char) :
    Pattern.read datePattern fields (date.textWithYear (Date.signedYear date.year) ++ rest) =
      some ({ fields with year := date.year, month := date.month, day := date.day }, rest) :=
  read_textWithYear date fields (dropWhile_signedYear _)
    (fun _ ends => readYear_signedYear _ ends) rest

/-! ## Fractions -/

/-- Up to nine digits of a fraction are read as nanoseconds; behind nine digits more are
dropped. -/
theorem readFraction_append {digits more : List Char} (some_ : digits ≠ [])
    (only : OnlyDigits digits) (spare : OnlyDigits more) (most : digits.length ≤ 9)
    (ends : digits.length = 9 ∨ more = []) :
    readFraction ('.' :: (digits ++ more)) =
      some (Digits.toNat (Digits.padRight 9 digits), []) := by
  have run : digitRun 9 (digits ++ more) = (digits, more) := by
    refine digitRun_append only most (ends.imp_right ?_)
    rintro rfl
    exact noDigitFirst_nil
  have dropped : more.dropWhile Digits.isDigit = [] := List.dropWhile_eq_nil_iff.2 spare
  rw [readFraction, run]
  cases digits with
  | nil => exact absurd rfl some_
  | cons c others => simp only [dropped]

/-- So many places of a fraction are read as nanoseconds. -/
theorem readFraction_padded {places n : Nat} (positive : 0 < places) (most : places ≤ 9)
    (fits : n < 10 ^ places) :
    readFraction ('.' :: Digits.padded places n) = some (n * 10 ^ (9 - places), []) := by
  have length := Digits.length_padded positive fits
  have read := readFraction_append (Digits.padded_ne_nil places n)
    (Digits.onlyDigits_padded places n) Digits.onlyDigits_nil (by omega) (.inr rfl)
  rwa [List.append_nil, Digits.toNat_padRight, Digits.toNat_padded, length] at read

theorem readFraction_shortFraction {nano : Nat} (fits : nano < nanosPerSecond) :
    readFraction (Time.shortFraction nano) = some (nano, []) := by
  have second : nanosPerSecond = 1000000000 := rfl
  unfold Time.shortFraction
  split_ifs with none_ millis micros
  · rw [none_]
    rfl
  · rw [readFraction_padded (by decide) (by decide) (by omega)]
    congr
    omega
  · rw [readFraction_padded (by decide) (by decide) (by omega)]
    congr
    omega
  · rw [readFraction_padded (by decide) (by decide) (by omega)]
    congr
    omega

theorem read_hour {n : Nat} (fits : n < 24) (fields : Fields) (rest : List Char) :
    (Item.number .hour).read fields (Digits.padded 2 n ++ rest) =
      some ({ fields with hour := n }, rest) := by
  rw [read_padded (by decide) (by omega), Field.store, if_pos (by omega)]
  rfl

theorem read_minute {n : Nat} (fits : n < 60) (fields : Fields) (rest : List Char) :
    (Item.number .minute).read fields (Digits.padded 2 n ++ rest) =
      some ({ fields with minute := n }, rest) := by
  rw [read_padded (by decide) (by omega), Field.store, if_pos (by omega)]
  rfl

theorem read_second {n : Nat} (fits : n ≤ 60) (fields : Fields) (rest : List Char) :
    (Item.number .second).read fields (Digits.padded 2 n ++ rest) =
      some ({ fields with second := n }, rest) := by
  rw [read_padded (by decide) (by omega), Field.store, if_pos (by omega)]
  rfl

/-- The fields of a clock and a fraction behind it. -/
theorem read_clock {hour minute second nano : Nat} {fraction : List Char} (hours : hour < 24)
    (minutes : minute < 60) (seconds : second ≤ 60)
    (read : readFraction fraction = some (nano, [])) (fields : Fields) :
    Pattern.read timePattern fields (Time.clock hour minute second ++ fraction) =
      some ({ fields with hour, minute, second, nano }, []) := by
  have last (fields : Fields) :
      Item.fraction.read fields fraction = some ({ fields with nano }, []) := by
    rw [Item.read, read]
    rfl
  simp only [Time.clock, List.append_assoc, List.cons_append]
  rw [timePattern, Pattern.read_cons (read_hour hours _ _),
    Pattern.read_cons (read_literal _ _ _),
    Pattern.read_cons (read_minute minutes _ _),
    Pattern.read_cons (read_literal _ _ _),
    Pattern.read_cons (read_second seconds _ _),
    Pattern.read_cons (last _)]
  rfl

/-- The fields of a written time; a leap second is second 60. -/
theorem read_timePattern (time : Time) (fields : Fields) :
    Pattern.read timePattern fields time.interchangeText.toList =
      some ({ fields with
        hour := time.hour
        minute := time.minute
        second := time.second + time.nano / nanosPerSecond
        nano := time.nano % nanosPerSecond }, []) := by
  have leap : time.second + time.nano / nanosPerSecond ≤ 60 := by
    have second := time.second_lt
    have nano := time.nano_lt
    rw [show nanosPerSecond = 1000000000 from rfl] at nano ⊢
    omega
  rw [Time.interchangeText, String.toList_ofList]
  exact read_clock time.hour_lt time.minute_lt leap
    (readFraction_shortFraction (Nat.mod_lt _ (by decide))) fields

/-! ## Blanks at the ends -/

/-- No character is a blank. -/
def Solid (text : List Char) : Prop :=
  ∀ c ∈ text, CharacterClass.isBlank c = false

@[simp] theorem solid_nil : Solid [] := by
  simp [Solid]

@[simp] theorem solid_cons {c : Char} {text : List Char} :
    Solid (c :: text) ↔ CharacterClass.isBlank c = false ∧ Solid text := by
  simp [Solid]

@[simp] theorem solid_append {front back : List Char} :
    Solid (front ++ back) ↔ Solid front ∧ Solid back := by
  simp [Solid, or_imp, forall_and]

@[simp] theorem solid_padded (width n : Nat) : Solid (Digits.padded width n) :=
  fun c member => isBlank_of_isDigit (Digits.onlyDigits_padded width n c member)

/-- A text that neither begins nor ends with a blank is kept. -/
theorem trimBlanks_of_ends {text : List Char}
    (first : ∀ c ∈ text.head?, CharacterClass.isBlank c = false)
    (last : ∀ c ∈ text.getLast?, CharacterClass.isBlank c = false) :
    CharacterClass.trimBlanks text = text := by
  have start {text : List Char} (first : ∀ c ∈ text.head?, CharacterClass.isBlank c = false) :
      text.dropWhile CharacterClass.isBlank = text := by
    cases text with
    | nil => rfl
    | cons c text => rw [List.dropWhile_cons_of_neg (by simp [first c rfl])]
  rw [CharacterClass.trimBlanks, start first, start (by simpa using last), List.reverse_reverse]

theorem trimBlanks_of_solid {text : List Char} (solid : Solid text) :
    CharacterClass.trimBlanks text = text :=
  trimBlanks_of_ends (fun c head => solid c (List.mem_of_mem_head? head))
    fun c last => solid c (List.mem_of_mem_getLast? last)

theorem solid_textWithYear (date : Date) {year : List Char} (solid : Solid year) :
    Solid (date.textWithYear year) := by
  simp [Date.textWithYear, solid]
  decide

theorem solid_clock (hour minute second : Nat) : Solid (Time.clock hour minute second) := by
  simp [Time.clock]
  decide

theorem solid_date (date : Date) : Solid date.interchangeText.toList := by
  have year : Solid (Date.signedYear date.year) := by
    unfold Date.signedYear
    split_ifs <;> simp <;> decide
  rw [Date.interchangeText, String.toList_ofList]
  exact solid_textWithYear date year

theorem solid_time (time : Time) : Solid time.interchangeText.toList := by
  have fraction (nano : Nat) : Solid (Time.shortFraction nano) := by
    unfold Time.shortFraction
    split_ifs <;> simp <;> decide
  rw [Time.interchangeText, String.toList_ofList]
  exact solid_append.2 ⟨solid_clock _ _ _, fraction _⟩

/-! ## Whole texts -/

theorem time?_of_time {fields : Fields} {time : Time} (hour : fields.hour = time.hour)
    (minute : fields.minute = time.minute)
    (second : fields.second = time.second + time.nano / nanosPerSecond)
    (nano : fields.nano = time.nano % nanosPerSecond) : fields.time? = some time := by
  have bound := time.second_lt
  have whole := Nat.div_add_mod time.nano nanosPerSecond
  have unit : nanosPerSecond = 1000000000 := rfl
  have fits := time.nano_lt
  unfold Fields.time?
  rw [hour, minute, second, nano, unit] at *
  split_ifs with leap
  · have late : time.second = 59 ∧ 1000000000 + time.nano % 1000000000 = time.nano := by omega
    rw [late.2, ← late.1]
    exact time.ofParts?_self
  · have early : time.nano / 1000000000 = 0 := by omega
    rw [early, Nat.add_zero, Nat.mod_eq_of_lt (by omega)]
    exact time.ofParts?_self

/-- **A written date is read as the date.** -/
theorem readDate?_interchangeText (date : Date) : readDate? date.interchangeText = some date := by
  have read := read_datePattern date {} []
  rw [List.append_nil] at read
  rw [readDate?, trimBlanks_of_solid (solid_date date), Date.interchangeText,
    String.toList_ofList, Pattern.readAll, read]
  exact date.ofParts?_self

/-- **A written time is read as the time.** -/
theorem readTime?_interchangeText (time : Time) : readTime? time.interchangeText = some time := by
  rw [readTime?, trimBlanks_of_solid (solid_time time), Pattern.readAll, read_timePattern]
  exact time?_of_time rfl rfl rfl rfl

theorem interchangeText_ne_nil (time : Time) : time.interchangeText.toList ≠ [] := by
  simp [Time.interchangeText, Time.clock]

theorem dropWhile_time (time : Time) :
    (' ' :: time.interchangeText.toList).dropWhile CharacterClass.isBlank =
      time.interchangeText.toList := by
  have solid := solid_time time
  rw [List.dropWhile_cons_of_pos (by decide)]
  cases written : time.interchangeText.toList with
  | nil => rfl
  | cons c rest =>
      rw [written] at solid
      rw [List.dropWhile_cons_of_neg (by simp [(solid_cons.1 solid).1])]

/-- **A written timestamp is read as the timestamp**, with a blank between its parts. -/
theorem readTimestamp?_interchangeText (timestamp : Timestamp) :
    readTimestamp? (timestamp.interchangeText " ") = some timestamp := by
  obtain ⟨date, time⟩ := timestamp
  have written : (Timestamp.interchangeText " " ⟨date, time⟩).toList =
      date.interchangeText.toList ++ ' ' :: time.interchangeText.toList := by
    simp [Timestamp.interchangeText]
  have trimmed : CharacterClass.trimBlanks
      (date.interchangeText.toList ++ ' ' :: time.interchangeText.toList) =
        date.interchangeText.toList ++ ' ' :: time.interchangeText.toList := by
    have behind : (date.interchangeText.toList ++ ' ' :: time.interchangeText.toList).getLast? =
        time.interchangeText.toList.getLast? := by
      rw [List.append_cons, List.getLast?_append_of_ne_nil _ (interchangeText_ne_nil time)]
    have front : date.interchangeText.toList ≠ [] := by
      simp [Date.interchangeText, Date.textWithYear]
    refine trimBlanks_of_ends (fun c head => ?_) fun c last => ?_
    · rw [List.head?_append_of_ne_nil _ front] at head
      exact solid_date date c (List.mem_of_mem_head? head)
    · rw [behind] at last
      exact solid_time time c (List.mem_of_mem_getLast? last)
  have whole : Pattern.read (datePattern ++ .blanks :: timePattern) {}
      (date.interchangeText.toList ++ ' ' :: time.interchangeText.toList) =
        some (⟨date.year, date.month, date.day, time.hour, time.minute,
          time.second + time.nano / nanosPerSecond, time.nano % nanosPerSecond⟩, []) := by
    have day := read_datePattern date {} (' ' :: time.interchangeText.toList)
    rw [← String.toList_ofList (l := date.textWithYear _), ← Date.interchangeText] at day
    rw [Pattern.read_append, day, Option.bind_some]
    have blank : Item.blanks.read ⟨date.year, date.month, date.day, 0, 0, 0, 0⟩
        (' ' :: time.interchangeText.toList) =
          some (⟨date.year, date.month, date.day, 0, 0, 0, 0⟩, time.interchangeText.toList) := by
      rw [Item.read, dropWhile_time]
    exact (Pattern.read_cons blank).trans (read_timePattern time _)
  have read : readParts? .blanks
      (date.interchangeText.toList ++ ' ' :: time.interchangeText.toList) = some ⟨date, time⟩ := by
    have clock : Fields.time? ⟨date.year, date.month, date.day, time.hour, time.minute,
        time.second + time.nano / nanosPerSecond, time.nano % nanosPerSecond⟩ = some time :=
      time?_of_time rfl rfl rfl rfl
    simp only [readParts?, Pattern.readAll, whole, Option.bind_eq_bind, Option.bind_some,
      Fields.timestamp?, clock, Fields.date?, date.ofParts?_self]
    rfl
  rw [readTimestamp?, written, trimmed]
  simp only [read]
  rfl

end Calendar

end ColumnStore
