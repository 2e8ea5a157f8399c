import ColumnStore.Column.Materialize
import ColumnStore.Proofs.Calendar.Reading
import Mathlib.Tactic.SplitIfs

/-!
# Copying boxed cells

A boxed cell is copied out if it is sound: a text that is there, the octets of a blob or none for
the size zero, the components of a day or of an instant. The ranges of the components are looked at
before the calendar is; together the two say that there is such a day (`DateCell.toDate?_eq_none`),
and what is copied then has the components of the cell (`DateCell.toDate?_eq_some`). A column is
copied cell by cell, whatever its other cells are (`ColumnCells.copied_cell_by_cell`).
-/

set_option autoImplicit false

namespace ColumnStore

/-! ## Days of the calendar -/

namespace Calendar

theorem isLeapYear_iff {year : Int} : isLeapYear year ↔ 4 ∣ year ∧ (100 ∣ year → 400 ∣ year) := by
  simp only [isLeapYear, Bool.and_eq_true, Bool.or_eq_true, decide_eq_true_eq,
    Int.dvd_iff_emod_eq_zero, ne_eq]
  exact and_congr_right fun _ => Decidable.imp_iff_not_or.symm

/-- The months of a year have the days of the Gregorian calendar. -/
structure HasDay (year : Int) (month day : Nat) : Prop where
  month_range : 1 ≤ month ∧ month ≤ 12
  day_range : 1 ≤ day ∧ day ≤ 31
  short_months : month ∈ [4, 6, 9, 11] → day ≤ 30
  february : month = 2 → day ≤ 29
  leap_day : month = 2 → day = 29 → 4 ∣ year ∧ (100 ∣ year → 400 ∣ year)

/-- The days of a month, by the three lengths that months have. -/
theorem daysIn_eq (year : Int) (month : Nat) :
    daysIn year month =
      if month ∈ [4, 6, 9, 11] then 30
      else if month = 2 then (if isLeapYear year then 29 else 28)
      else if 1 ≤ month ∧ month ≤ 12 then 31
      else 0 := by
  unfold daysIn
  split
  case h_13 => grind
  all_goals simp

theorem hasDay_iff {year : Int} {month day : Nat} :
    HasDay year month day ↔ 1 ≤ day ∧ day ≤ daysIn year month := by
  rw [daysIn_eq]
  constructor
  · rintro ⟨months, ⟨first, last⟩, short, february, leap⟩
    refine ⟨first, ?_⟩
    split_ifs with thirty second extra
    · exact short thirty
    · exact february second
    · have other : day ≠ 29 := fun same => extra (isLeapYear_iff.2 (leap second same))
      have bound := february second
      omega
    · exact last
  · rintro ⟨first, last⟩
    split_ifs at last with thirty second extra months
    · have months : 1 ≤ month ∧ month ≤ 12 := by simp at thirty; omega
      have other : month ≠ 2 := by rintro rfl; simp at thirty
      exact ⟨months, by omega, fun _ => last, fun same => absurd same other,
        fun same => absurd same other⟩
    · exact ⟨by omega, by omega, fun short => absurd short thirty, fun _ => last,
        fun _ _ => isLeapYear_iff.1 extra⟩
    · exact ⟨by omega, by omega, fun short => absurd short thirty, fun _ => by omega,
        fun _ _ => by omega⟩
    · exact ⟨months, ⟨first, last⟩, fun short => absurd short thirty,
        fun same => absurd same second, fun same => absurd same second⟩
    · omega

end Calendar

/-! ## The parts of days and times -/

theorem Date.ofParts?_eq_some {year : Int} {month day : Nat} {date : Date} :
    ofParts? year month day = some date ↔
      date.year = year ∧ date.month = month ∧ date.day = day := by
  constructor
  · intro named
    unfold ofParts? at named
    split_ifs at named
    cases named
    exact ⟨rfl, rfl, rfl⟩
  · rintro ⟨rfl, rfl, rfl⟩
    exact date.ofParts?_self

theorem Time.ofParts?_eq_some {hour minute second nano : Nat} {time : Time} :
    ofParts? hour minute second nano = some time ↔
      time.hour = hour ∧ time.minute = minute ∧ time.second = second ∧ time.nano = nano := by
  constructor
  · intro named
    unfold ofParts? at named
    split_ifs at named
    cases named
    exact ⟨rfl, rfl, rfl, rfl⟩
  · rintro ⟨rfl, rfl, rfl, rfl⟩
    exact time.ofParts?_self

/-! ## Sound cells -/

namespace DateCell

/-- There is such a day in the calendar, and the year is not before the first. -/
structure Sound (cell : DateCell) : Prop where
  year_pos : 1 ≤ cell.year.val
  day_exists : Calendar.HasDay cell.year.val cell.month.toNat cell.day.toNat

/-- The date has the components of the cell. -/
structure Names (cell : DateCell) (date : Date) : Prop where
  year_eq : date.year = cell.year.val
  month_eq : date.month = cell.month.toNat
  day_eq : date.day = cell.day.toNat

theorem isOrderly_of_sound {cell : DateCell} (sound : cell.Sound) : cell.isOrderly := by
  have months := sound.day_exists.month_range
  have days := sound.day_exists.day_range
  have years := sound.year_pos
  simp only [isOrderly, Bool.and_eq_true, decide_eq_true_eq]
  exact ⟨⟨by omega, months⟩, days⟩

/-- A day that is named exists: the calendar is looked at behind the ranges. -/
theorem toDate?_eq_some {cell : DateCell} {date : Date} :
    cell.toDate? = some date ↔ cell.Sound ∧ cell.Names date := by
  constructor
  · intro named
    rw [toDate?, Option.ite_none_right_eq_some] at named
    obtain ⟨orderly, named⟩ := named
    obtain ⟨year, month, day⟩ := Date.ofParts?_eq_some.1 named
    simp only [isOrderly, Bool.and_eq_true, decide_eq_true_eq] at orderly
    have there := Calendar.hasDay_iff.2 date.day_exists
    rw [year, month, day] at there
    exact ⟨⟨by omega, there⟩, year, month, day⟩
  · rintro ⟨sound, year, month, day⟩
    rw [toDate?, if_pos (isOrderly_of_sound sound)]
    exact Date.ofParts?_eq_some.2 ⟨year, month, day⟩

theorem exists_names {cell : DateCell} (sound : cell.Sound) : ∃ date, cell.Names date := by
  have fits : Calendar.leastYear ≤ cell.year.val ∧ cell.year.val ≤ Calendar.greatestYear := by
    have bounds := cell.year.property
    have least : Calendar.leastYear = -262143 := rfl
    have greatest : Calendar.greatestYear = 262142 := rfl
    have range : IntegerKind.int16.minimum = -32768 ∧ IntegerKind.int16.maximum = 32767 :=
      ⟨rfl, rfl⟩
    omega
  exact ⟨⟨_, _, _, fits, Calendar.hasDay_iff.1 sound.day_exists⟩, rfl, rfl, rfl⟩

end DateCell

namespace TimeCell

/-- The components are in the ranges of a clock with milliseconds. -/
structure Sound (cell : TimeCell) : Prop where
  hours_le : cell.hours.toNat ≤ 23
  minutes_le : cell.minutes.toNat ≤ 59
  seconds_le : cell.seconds.toNat ≤ 59
  millis_lt : cell.millis.toNat < 1000

/-- The time has the components of the cell, and a million nanoseconds for every millisecond. -/
structure Names (cell : TimeCell) (time : Time) : Prop where
  hour_eq : time.hour = cell.hours.toNat
  minute_eq : time.minute = cell.minutes.toNat
  second_eq : time.second = cell.seconds.toNat
  nano_eq : time.nano = cell.millis.toNat * 10 ^ 6

theorem isOrderly_iff {cell : TimeCell} : cell.isOrderly ↔ cell.Sound := by
  simp only [isOrderly, Bool.and_eq_true, decide_eq_true_eq]
  constructor
  · rintro ⟨⟨⟨hours, minutes⟩, seconds⟩, millis⟩
    exact ⟨by omega, by omega, by omega, millis⟩
  · rintro ⟨hours, minutes, seconds, millis⟩
    exact ⟨⟨⟨by omega, by omega⟩, by omega⟩, millis⟩

theorem toTime?_eq_some {cell : TimeCell} {time : Time} :
    cell.toTime? = some time ↔ cell.Sound ∧ cell.Names time := by
  rw [toTime?, Option.ite_none_right_eq_some, isOrderly_iff]
  refine and_congr_right fun sound => ?_
  have units : Calendar.nanosPerMilli = 10 ^ 6 := rfl
  have bound := sound.millis_lt
  rw [Time.ofMillis?, units, if_pos (by omega), Time.ofParts?_eq_some]
  exact ⟨fun ⟨hour, minute, second, nano⟩ => ⟨hour, minute, second, nano⟩,
    fun ⟨hour, minute, second, nano⟩ => ⟨hour, minute, second, nano⟩⟩

theorem exists_names {cell : TimeCell} (sound : cell.Sound) : ∃ time, cell.Names time := by
  obtain ⟨hours, minutes, seconds, millis⟩ := sound
  have unit : Calendar.nanosPerSecond = 1000000000 := rfl
  exact ⟨⟨cell.hours.toNat, cell.minutes.toNat, cell.seconds.toNat, cell.millis.toNat * 10 ^ 6,
    by omega, by omega, by omega, .inl (by omega)⟩, rfl, rfl, rfl, rfl⟩

end TimeCell

namespace BoxedKind

/-- Whether a cell has a content: a text is there, a blob without octets has the size zero, and
days and times exist. -/
def Sound : (kind : BoxedKind) → kind.Cell → Prop
  | .str, cell => cell ≠ none
  | .blob, cell => ∀ size, cell = .missing size → size = 0
  | .date, cell => cell.Sound
  | .time, cell => cell.Sound
  | .timestamp, cell => cell.date.Sound ∧ cell.time.Sound

/-- What the content of a cell is. -/
def Shows : (kind : BoxedKind) → kind.Cell → kind.Content → Prop
  | .str, cell, text => ∃ native, cell = some native ∧ text = native.toString
  | .blob, cell, content => cell = .bytes content ∨ (∃ size, cell = .missing size) ∧ content = []
  | .date, cell, day => cell.Names day
  | .time, cell, instant => cell.Names instant
  | .timestamp, cell, moment => cell.date.Names moment.date ∧ cell.time.Names moment.time

/-- A cell has a content if and only if it is sound, and the content is what it shows. -/
theorem content?_eq_some {kind : BoxedKind} {cell : kind.Cell} {content : kind.Content} :
    kind.content? cell = some content ↔ kind.Sound cell ∧ kind.Shows cell content := by
  cases kind with
  | str =>
      show Option.map NativeText.toString cell = some content ↔
        cell ≠ none ∧ ∃ native, cell = some native ∧ content = native.toString
      cases cell with
      | none => simp
      | some native => simp [eq_comm]
  | blob =>
      show BlobCell.content? cell = some content ↔
        (∀ size, cell = .missing size → size = 0) ∧
          (cell = .bytes content ∨ (∃ size, cell = .missing size) ∧ content = [])
      cases cell with
      | missing size => simp [BlobCell.content?, eq_comm]
      | bytes octets => simp [BlobCell.content?]
  | date => exact DateCell.toDate?_eq_some
  | time => exact TimeCell.toTime?_eq_some
  | timestamp =>
      show TimestampCell.toTimestamp? cell = some content ↔
        (cell.date.Sound ∧ cell.time.Sound) ∧
          (cell.date.Names content.date ∧ cell.time.Names content.time)
      constructor
      · intro named
        obtain ⟨date, day, rest⟩ := Option.bind_eq_some_iff.1 named
        obtain ⟨time, instant, whole⟩ := Option.bind_eq_some_iff.1 rest
        cases whole
        obtain ⟨daySound, dayNames⟩ := DateCell.toDate?_eq_some.1 day
        obtain ⟨timeSound, timeNames⟩ := TimeCell.toTime?_eq_some.1 instant
        exact ⟨⟨daySound, timeSound⟩, dayNames, timeNames⟩
      · rintro ⟨⟨daySound, timeSound⟩, dayNames, timeNames⟩
        have day := DateCell.toDate?_eq_some.2 ⟨daySound, dayNames⟩
        have instant := TimeCell.toTime?_eq_some.2 ⟨timeSound, timeNames⟩
        rw [TimestampCell.toTimestamp?, day, instant]
        rfl

theorem exists_shows {kind : BoxedKind} {cell : kind.Cell} (sound : kind.Sound cell) :
    ∃ content, kind.Shows cell content := by
  cases kind with
  | str =>
      obtain ⟨native, there⟩ := Option.ne_none_iff_exists'.1 sound
      exact ⟨native.toString, native, there, rfl⟩
  | blob =>
      cases cell with
      | missing size => exact ⟨[], .inr ⟨⟨size, rfl⟩, rfl⟩⟩
      | bytes octets => exact ⟨octets, .inl rfl⟩
  | date => exact DateCell.exists_names sound
  | time => exact TimeCell.exists_names sound
  | timestamp =>
      obtain ⟨date, day⟩ := DateCell.exists_names sound.1
      obtain ⟨time, instant⟩ := TimeCell.exists_names sound.2
      exact ⟨⟨date, time⟩, day, instant⟩

theorem content?_eq_none {kind : BoxedKind} {cell : kind.Cell} :
    kind.content? cell = none ↔ ¬ kind.Sound cell := by
  rw [Option.eq_none_iff_forall_ne_some]
  constructor
  · intro never sound
    obtain ⟨content, shows_⟩ := exists_shows sound
    exact never content (content?_eq_some.2 ⟨sound, shows_⟩)
  · intro unsound content held
    exact unsound (content?_eq_some.1 held).1

end BoxedKind

/-! ## Columns -/

theorem CellArray.isNull_iff {α : Type} {array : CellArray α} {cell : α} :
    array.isNull cell ↔ ∃ test, array.nullTest = some test ∧ test cell ≠ 0 := by
  obtain ⟨storage, nullTest⟩ := array
  cases nullTest <;> simp [isNull]

/-- **A column of boxed cells is copied cell by cell, and stays as it is.** There is an entry for
every row, which depends on the cell of the row alone: it is NULL if the test says so or the cell
is not sound, and otherwise what the cell shows. Without a buffer every entry is NULL. -/
theorem ColumnCells.copied_cell_by_cell (kind : BoxedKind)
    (nullTest : Option (kind.Cell → Int32)) :
    ∃ entry : kind.Cell → Option kind.Content,
      (∀ cell, entry cell = none ↔
        (∃ test, nullTest = some test ∧ test cell ≠ 0) ∨ ¬ kind.Sound cell) ∧
      (∀ cell content, entry cell = some content ↔
        ¬ (∃ test, nullTest = some test ∧ test cell ≠ 0) ∧ kind.Sound cell ∧
          kind.Shows cell content) ∧
      ∀ storage digits scale unsupported,
        ∃ rows,
          (boxed kind ⟨storage, nullTest⟩).materialize (.boxed kind) digits scale unsupported =
            (.ok (.boxed ⟨kind, rows⟩), boxed kind ⟨storage, nullTest⟩) ∧
          rows.length = storage.count ∧
          (∀ count, storage = .missing count → rows = List.replicate count none) ∧
          ∀ cells, storage = .buffer cells → rows = cells.map entry := by
  let array : CellArray kind.Cell := ⟨.missing 0, nullTest⟩
  refine ⟨fun cell => if array.isNull cell then none else kind.content? cell, fun cell => ?_,
    fun cell content => ?_, fun storage digits scale unsupported => ?_⟩
  · rw [← @CellArray.isNull_iff _ array, ite_eq_left_iff, BoxedKind.content?_eq_none]
    exact Decidable.imp_iff_not_or.trans (or_congr_left Decidable.not_not)
  · rw [← @CellArray.isNull_iff _ array, Option.ite_none_left_eq_some,
      BoxedKind.content?_eq_some]
  · cases storage with
    | missing count =>
        refine ⟨List.replicate count none, by simp [materialize, type, BoxedColumn.ofCells],
          List.length_replicate, fun other same => ?_, fun other same => ?_⟩
        · cases same
          rfl
        · cases same
    | buffer cells =>
        refine ⟨cells.map fun cell => if array.isNull cell then none else kind.content? cell, ?_,
          List.length_map _, fun other same => ?_, fun other same => ?_⟩
        · simp only [materialize, type, BoxedColumn.ofCells, if_true]
          rfl
        · cases same
        · cases same
          rfl

end ColumnStore
