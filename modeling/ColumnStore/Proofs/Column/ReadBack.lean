import ColumnStore.Column.Materialize
import ColumnStore.Engine.Result
import ColumnStore.Proofs.Column.Copying
import ColumnStore.Proofs.Number.Rounding
import ColumnStore.Proofs.Sql.Coercion
import ColumnStore.Proofs.Text.Utf8

/-!
# Reading back stored values

A stored value reaches a caller through a cell: the engine writes the cell, and reading it
sets the cells reserved for NULL to zero and copies boxed cells that are sound. What a value
reads back as depends on the value and its declared type alone (`DeclaredType.readBack`), and
only four things are lost on the way: NULL in a fixed-width column, the number that is
reserved for NULL, days outside the years that a cell names, and what is shorter than a
millisecond. Decimals lose nothing, because the number reserved for NULL in the integers they
are stored in has more digits than they may have.

Main results: `value_shown_fixedCell`, `content_boxedCell` and `fixedCell_decimal`.
-/

set_option autoImplicit false

namespace ColumnStore

/-! ## What is read back -/

/-- The time cut to whole milliseconds; a leap second has none. -/
def Time.wholeMillis? (time : Time) : Option Time :=
  if regular : time.nano < Calendar.nanosPerSecond then
    some { time with
      nano := time.nano / Calendar.nanosPerMilli * Calendar.nanosPerMilli
      nano_lt := .inl (Nat.lt_of_le_of_lt (Nat.div_mul_le_self _ _) regular) }
  else none

/-- The years whose days are read back. -/
def Date.InCellYears (date : Date) : Prop :=
  1 ≤ date.year ∧ date.year ≤ 32767

instance (date : Date) : Decidable date.InCellYears :=
  inferInstanceAs (Decidable (_ ∧ _))

/-- What NULL reads back as: the zero of a fixed-width type, otherwise NULL. -/
def ColumnType.zeroValue : ColumnType → Value
  | .fixed kind => kind.value kind.zero
  | .boxed _ => .null
  | .unknown => .null

/-- What a stored value reads back as, in a column that is no decimal. -/
def DeclaredType.readBack (type : DeclaredType) (stored : Value) : Value :=
  match stored with
  | .null => type.storage.zeroValue
  | .integer kind number => if number = kind.sentinel then .integer kind kind.zero else stored
  | .float number => if number.isNaN then .float Binary.zero else stored
  | .double number => if number.isNaN then .double Binary.zero else stored
  | .date day => if day.InCellYears then stored else .null
  | .time instant => instant.wholeMillis?.elim .null .time
  | .timestamp instant =>
      if instant.date.InCellYears then
        instant.time.wholeMillis?.elim .null fun time => .timestamp ⟨instant.date, time⟩
      else .null
  | stored => stored

/-! ## Fixed-width cells -/

/-- A fixed-width cell as it is shown: one reserved for NULL has become zero. -/
def FixedKind.shown (kind : FixedKind) (cell : kind.Cell) : kind.Cell :=
  if kind.isSentinel cell then kind.zero else cell

theorem Binary.isNaN_nan_single : (Binary.nan : Binary32).isNaN = true := by decide

theorem Binary.isNaN_nan_double : (Binary.nan : Binary64).isNaN = true := by decide

namespace OutputColumn

/-- A fixed-width cell shows what its value reads back as. -/
theorem value_shown_fixedCell {type : DeclaredType} {kind : FixedKind} {stored : Value}
    (storage : type.storage = .fixed kind) (plain : type.isDecimal = false)
    (kept : type.Stores stored) :
    kind.value (kind.shown (fixedCell kind type.scale stored)) = type.readBack stored := by
  cases type with
  | boolean =>
      cases storage
      cases stored <;> try exact kept.elim
      · rfl
      · next truth => cases truth <;> rfl
  | integer width =>
      cases storage
      cases stored <;> try exact kept.elim
      · simp only [FixedKind.shown, fixedCell, storedInteger?, Value.toInt?, Option.map_none,
          Option.getD_none, FixedKind.isSentinel, decide_true, if_true]
        rfl
      · next other number =>
          have same : other = width := kept
          subst same
          simp only [FixedKind.shown, fixedCell, storedInteger?, Value.toInt?, Option.map_some,
            Option.getD_some, IntegerKind.wrap_val, FixedKind.isSentinel, decide_eq_true_eq,
            DeclaredType.readBack]
          split <;> rfl
  | real =>
      cases storage
      cases stored <;> try exact kept.elim
      · simp only [FixedKind.shown, fixedCell, Value.toDouble?, Value.toInt?, Option.map_none,
          Option.getD_none, FixedKind.isSentinel, Binary.isNaN_nan_single, if_true]
        rfl
      · next number =>
          have valid : number.isNaN = false := kept
          simp only [FixedKind.shown, fixedCell, Value.toDouble?, Option.map_some,
            Option.getD_some, Binary.convert_double_convert_single valid, FixedKind.isSentinel,
            valid, DeclaredType.readBack]
          rfl
  | double =>
      cases storage
      cases stored <;> try exact kept.elim
      · simp only [FixedKind.shown, fixedCell, Value.toDouble?, Value.toInt?, Option.map_none,
          Option.getD_none, FixedKind.isSentinel, Binary.isNaN_nan_double, if_true]
        rfl
      · next number =>
          have valid : number.isNaN = false := kept
          simp only [FixedKind.shown, fixedCell, Value.toDouble?, Option.getD_some,
            FixedKind.isSentinel, valid, DeclaredType.readBack]
          rfl
  | varchar => cases storage
  | blob => cases storage
  | date => cases storage
  | time => cases storage
  | timestamp => cases storage
  | decimal => cases plain

end OutputColumn

/-! ## Days and times in cells -/

namespace Date

/-- A day is laid out in components that are those of the day. -/
theorem parts_of_toCell {date : Date} {cell : DateCell} (laid : date.toCell = .ok cell) :
    cell.year.val = date.year ∧ cell.month.toNat = date.month ∧ cell.day.toNat = date.day := by
  have month := date.month_le
  have day := date.day_le
  unfold toCell at laid
  split at laid
  · next year fits =>
      cases laid
      exact ⟨IntegerKind.ofInt?_eq_some.1 fits,
        UInt8.toNat_ofNat_of_lt' (show date.month < 256 by omega),
        UInt8.toNat_ofNat_of_lt' (show date.day < 256 by omega)⟩
  · cases laid

/-- A cell names its day again if the year is one that is read back. -/
theorem toDate?_of_toCell {date : Date} {cell : DateCell} (laid : date.toCell = .ok cell) :
    cell.toDate? = if date.InCellYears then some date else none := by
  obtain ⟨year, month, day⟩ := parts_of_toCell laid
  have bounded := cell.year.property
  have bounds : IntegerKind.int16.minimum = -32768 ∧ IntegerKind.int16.maximum = 32767 :=
    ⟨rfl, rfl⟩
  by_cases positive : 0 < date.year
  · have inside : date.InCellYears := ⟨positive, by omega⟩
    have there := Calendar.hasDay_iff.2 date.day_exists
    rw [← year, ← month, ← day] at there
    rw [if_pos inside]
    exact DateCell.toDate?_eq_some.2 ⟨⟨year ▸ positive, there⟩, year.symm, month.symm, day.symm⟩
  · have outside : ¬ date.InCellYears := fun inside => positive inside.1
    rw [if_neg outside, Option.eq_none_iff_forall_ne_some]
    exact fun other named => positive (year ▸ (DateCell.toDate?_eq_some.1 named).1.year_pos)

theorem toCell_ne_sentinel {date : Date} {cell : DateCell} (laid : date.toCell = .ok cell) :
    cell ≠ DateCell.sentinel := by
  rintro rfl
  have month := (parts_of_toCell laid).2.1
  have reserved : DateCell.sentinel.month.toNat = 255 := rfl
  have least := date.month_le
  omega

theorem not_inCellYears_of_toCell {date : Date} {error : Error}
    (refused : date.toCell = .error error) : ¬ date.InCellYears := by
  rintro ⟨least, greatest⟩
  unfold toCell at refused
  split at refused
  · cases refused
  · next outside =>
      have bounds : IntegerKind.int16.minimum = -32768 ∧ IntegerKind.int16.maximum = 32767 :=
        ⟨rfl, rfl⟩
      have range := IntegerKind.ofInt?_eq_none.1 outside
      omega

end Date

namespace Time

/-- A time is laid out in components that are those of the time, cut to milliseconds. -/
theorem parts_toCell (time : Time) : time.toCell.hours.toNat = time.hour ∧
    time.toCell.minutes.toNat = time.minute ∧ time.toCell.seconds.toNat = time.second ∧
      time.toCell.millis.toNat = time.nano / 1000000 := by
  have hour := time.hour_lt
  have minute := time.minute_lt
  have second := time.second_lt
  have nano := time.nano_lt
  have units : Calendar.nanosPerSecond = 1000000000 ∧ Calendar.nanosPerMilli = 1000000 :=
    ⟨rfl, rfl⟩
  refine ⟨UInt8.toNat_ofNat_of_lt' (show time.hour < 256 by omega),
    UInt8.toNat_ofNat_of_lt' (show time.minute < 256 by omega),
    UInt8.toNat_ofNat_of_lt' (show time.second < 256 by omega), ?_⟩
  simp only [toCell, milli, units, UInt32.toNat_ofNat']
  omega

theorem toTime?_toCell (time : Time) : time.toCell.toTime? = time.wholeMillis? := by
  have limits := And.intro time.hour_lt (And.intro time.minute_lt time.second_lt)
  have second : Calendar.nanosPerSecond = 1000000000 := rfl
  obtain ⟨hours, minutes, seconds, millis⟩ := time.parts_toCell
  by_cases regular : time.nano < 1000000000
  · rw [wholeMillis?, dif_pos (second ▸ regular)]
    refine TimeCell.toTime?_eq_some.2 ⟨⟨?_, ?_, ?_, ?_⟩, hours.symm, minutes.symm,
      seconds.symm, ?_⟩
    · omega
    · omega
    · omega
    · omega
    · rw [millis]
      rfl
  · rw [wholeMillis?, dif_neg (second ▸ regular), Option.eq_none_iff_forall_ne_some]
    intro other named
    have bound := (TimeCell.toTime?_eq_some.1 named).1.millis_lt
    omega

theorem toCell_ne_sentinel (time : Time) : time.toCell ≠ TimeCell.sentinel := by
  intro same
  have hours := time.parts_toCell.1
  have hour := time.hour_lt
  have reserved : TimeCell.sentinel.hours.toNat = 255 := rfl
  rw [same] at hours
  omega

end Time

/-- A day has the components of the cell that names it. -/
theorem DateCell.toCell_of_toDate? {cell : DateCell} {date : Date}
    (named : cell.toDate? = some date) : date.toCell = .ok cell := by
  obtain ⟨-, year, month, day⟩ := toDate?_eq_some.1 named
  simp only [Date.toCell, year, month, day, IntegerKind.ofInt?_val, UInt8.ofNat_toNat]

/-- A time has the components of the cell that names it: the milliseconds become nanoseconds, and
milliseconds again. -/
theorem TimeCell.toCell_of_toTime? {cell : TimeCell} {time : Time}
    (named : cell.toTime? = some time) : time.toCell = cell := by
  obtain ⟨-, hour, minute, second, nano⟩ := toTime?_eq_some.1 named
  have whole : cell.millis.toNat * 10 ^ 6 / Calendar.nanosPerMilli = cell.millis.toNat :=
    Nat.mul_div_cancel _ (by decide)
  simp only [Time.toCell, Time.milli, hour, minute, second, nano, whole, UInt8.ofNat_toNat,
    UInt32.ofNat_toNat]

/-- A moment has the components of the cell that names it. -/
theorem TimestampCell.toCell_of_toTimestamp? {cell : TimestampCell} {timestamp : Timestamp}
    (named : cell.toTimestamp? = some timestamp) : timestamp.toCell = .ok cell := by
  obtain ⟨date, day, rest⟩ := Option.bind_eq_some_iff.1 named
  obtain ⟨time, instant, whole⟩ := Option.bind_eq_some_iff.1 rest
  cases whole
  rw [Timestamp.toCell, DateCell.toCell_of_toDate? day, TimeCell.toCell_of_toTime? instant]
  rfl

/-! ## Boxed cells -/

/-- What is copied out of a boxed cell. -/
def BoxedKind.copied (kind : BoxedKind) (cell : kind.Cell) : Option kind.Content :=
  if kind.isSentinel cell then none else kind.content? cell

namespace OutputColumn

/-- A text that is laid out is read as it is. -/
theorem toString_of_terminated {text : String} {native : NativeText}
    (laid : terminated text = .ok native) : native.toString = text := by
  unfold terminated at laid
  split at laid
  · next handed =>
      cases laid
      exact NativeText.toString_of_ofString? handed
  · cases laid

theorem copied_str {text : String} {native : NativeText} (laid : terminated text = .ok native) :
    BoxedKind.str.copied (some native) = some text := by
  simp only [BoxedKind.copied, BoxedKind.isSentinel, Option.isNone_some, BoxedKind.content?,
    Option.map_some]
  exact congrArg some (toString_of_terminated laid)

theorem copied_date (day : Date) :
    BoxedKind.date.copied (day.toCell.toOption.getD DateCell.sentinel) =
      if day.InCellYears then some day else none := by
  cases laid : day.toCell with
  | ok cell =>
      have other : ¬ BoxedKind.date.isSentinel cell :=
        fun reserved => Date.toCell_ne_sentinel laid (of_decide_eq_true reserved)
      rw [BoxedKind.copied, Except.toOption, Option.getD_some, if_neg other]
      exact Date.toDate?_of_toCell laid
  | error error =>
      rw [if_neg (Date.not_inCellYears_of_toCell laid)]
      rfl

theorem copied_time (instant : Time) :
    BoxedKind.time.copied instant.toCell = instant.wholeMillis? := by
  have other : ¬ BoxedKind.time.isSentinel instant.toCell :=
    fun reserved => instant.toCell_ne_sentinel (of_decide_eq_true reserved)
  rw [BoxedKind.copied, if_neg other]
  exact instant.toTime?_toCell

theorem copied_timestamp (instant : Timestamp) :
    BoxedKind.timestamp.copied (instant.toCell.toOption.getD TimestampCell.sentinel) =
      if instant.date.InCellYears then
        instant.time.wholeMillis?.map fun time => ⟨instant.date, time⟩
      else none := by
  cases laid : instant.date.toCell with
  | ok cell =>
      have whole : instant.toCell = .ok ⟨cell, instant.time.toCell⟩ := by
        rw [Timestamp.toCell, laid]
        rfl
      have other : ¬ BoxedKind.timestamp.isSentinel ⟨cell, instant.time.toCell⟩ :=
        fun reserved => instant.time.toCell_ne_sentinel
          (congrArg TimestampCell.time (of_decide_eq_true reserved))
      rw [whole, BoxedKind.copied, Except.toOption, Option.getD_some, if_neg other]
      simp only [BoxedKind.content?, TimestampCell.toTimestamp?, Date.toDate?_of_toCell laid,
        Time.toTime?_toCell]
      split
      · cases instant.time.wholeMillis? <;> rfl
      · rfl
  | error error =>
      have whole : instant.toCell = .error error := by
        rw [Timestamp.toCell, laid]
        rfl
      rw [whole, if_neg (Date.not_inCellYears_of_toCell laid)]
      rfl

/-- What is copied out of a boxed cell is what its value reads back as. -/
theorem content_boxedCell {type : DeclaredType} {kind : BoxedKind} {stored : Value}
    {cell : kind.Cell} (storage : type.storage = .boxed kind) (kept : type.Stores stored)
    (laid : boxedCell kind stored = .ok cell) :
    (kind.copied cell).elim .null kind.value = type.readBack stored := by
  cases type with
  | varchar limit =>
      cases storage
      cases stored <;> try exact kept.elim
      · cases laid
        rfl
      · next text =>
          obtain ⟨native, terminated, rfl⟩ := Except.map_eq_ok.1 laid
          rw [copied_str terminated]
          rfl
  | blob =>
      cases storage
      cases stored <;> try exact kept.elim
      · cases laid
        rfl
      · cases laid
        rfl
  | date =>
      cases storage
      cases stored <;> try exact kept.elim
      · cases laid
        rfl
      · next day =>
          cases laid
          rw [copied_date, DeclaredType.readBack]
          split <;> rfl
  | time =>
      cases storage
      cases stored <;> try exact kept.elim
      · cases laid
        rfl
      · next instant =>
          cases laid
          rw [copied_time, DeclaredType.readBack]
          rfl
  | timestamp =>
      cases storage
      cases stored <;> try exact kept.elim
      · cases laid
        rfl
      · next instant =>
          cases laid
          rw [copied_timestamp, DeclaredType.readBack]
          split
          · cases instant.time.wholeMillis? <;> rfl
          · rfl
  | boolean => cases storage
  | integer => cases storage
  | real => cases storage
  | double => cases storage
  | decimal => cases storage

end OutputColumn

/-! ## Decimals in cells -/

/-- The number as one of 128 bits. -/
def IntegerKind.widest {kind : IntegerKind} (number : kind.Number) : int128.Number :=
  ⟨number.val, kind.within_int128.1.trans number.property.1,
    number.property.2.trans kind.within_int128.2⟩

/-- A signed kind reserves its smallest number, whose counterpart would not fit. -/
theorem IntegerKind.sentinel_of_ne_size {kind : IntegerKind} (signed : kind ≠ .size) :
    kind.sentinel.val = kind.minimum ∧ kind.minimum < -kind.maximum := by
  cases kind <;> first | exact absurd rfl signed | exact ⟨rfl, by decide⟩

namespace DeclaredType

theorem decimalStorage_ne_size (digits : Nat) : decimalStorage digits ≠ .size := by
  unfold decimalStorage
  split_ifs <;> decide

/-- The integers that decimals of so many digits are stored in hold one more than the greatest
of them. -/
theorem pow_le_maximum {digits : Nat} (valid : digits ≤ 38) :
    (10 ^ digits : Int) ≤ (decimalStorage digits).maximum := by
  have monotone {limit : Nat} (below : digits ≤ limit) : (10 ^ digits : Int) ≤ 10 ^ limit :=
    pow_le_pow_right₀ (by decide) below
  unfold decimalStorage
  split_ifs with one two four eight
  · exact (monotone one).trans (by decide)
  · exact (monotone two).trans (by decide)
  · exact (monotone four).trans (by decide)
  · exact (monotone eight).trans (by decide)
  · exact (monotone valid).trans (by decide)

theorem maximum_le_int128 (digits : Nat) :
    (decimalStorage digits).maximum ≤ IntegerKind.int128.maximum ∧
      IntegerKind.int128.minimum ≤ (decimalStorage digits).minimum :=
  (decimalStorage digits).within_int128.symm

/-- An unscaled integer of at most so many digits fits the integers that decimals of so many
digits are stored in, and is not the one reserved for NULL. -/
theorem decimal_fits {digits : Nat} (valid : digits ≤ 38) {n : Int}
    (bounded : n.natAbs < 10 ^ digits) :
    (decimalStorage digits).minimum < n ∧ n < (decimalStorage digits).maximum := by
  have room := pow_le_maximum valid
  have reserved := IntegerKind.sentinel_of_ne_size (decimalStorage_ne_size digits)
  have wide : (n.natAbs : Int) < 10 ^ digits := by exact_mod_cast bounded
  omega

end DeclaredType

namespace OutputColumn

/-- The unscaled integer of a stored decimal is found again. -/
theorem storedInteger_decimal {digits scale : Nat} (valid : digits ≤ 38) {n : Int}
    (bounded : n.natAbs < 10 ^ digits) :
    storedInteger? scale (.decimal (Decimal.fromUnscaled n scale)) = some n := by
  have fits := DeclaredType.decimal_fits valid bounded
  have wide := DeclaredType.maximum_le_int128 digits
  have kept := Decimal.toUnscaled?_fromUnscaled ⟨n, by omega⟩ scale
  simp only [storedInteger?, kept, Option.map_some]

/-- A decimal lies in its cell as it is, and the cell is not the one reserved for NULL. -/
theorem fixedCell_decimal {digits : Nat} (scale : Nat) (valid : digits ≤ 38) {n : Int}
    (bounded : n.natAbs < 10 ^ digits) :
    ∃ cell : (DeclaredType.decimalStorage digits).Number,
      fixedCell (.integer (DeclaredType.decimalStorage digits)) scale
        (.decimal (Decimal.fromUnscaled n scale)) = cell ∧
      cell.val = n ∧ cell ≠ (DeclaredType.decimalStorage digits).sentinel := by
  have fits := DeclaredType.decimal_fits valid bounded
  have reserved := IntegerKind.sentinel_of_ne_size (DeclaredType.decimalStorage_ne_size digits)
  have inside : (DeclaredType.decimalStorage digits).minimum ≤ n ∧
      n ≤ (DeclaredType.decimalStorage digits).maximum := ⟨fits.1.le, fits.2.le⟩
  refine ⟨⟨n, inside⟩, ?_, rfl, fun same => ?_⟩
  · simp only [fixedCell, storedInteger_decimal valid bounded, Option.map_some, Option.getD_some]
    exact IntegerKind.wrap_val ⟨n, inside⟩
  · have value := congrArg Subtype.val same
    dsimp only at value
    omega

/-- What a decimal column stores is NULL or a decimal whose unscaled integer fits the cells of
the column: it is found again, and lies in a cell as it is. -/
theorem decimal_of_stores {digits scale : Nat} {valid : 0 < digits ∧ scale ≤ digits ∧ digits ≤ 38}
    {stored : Value} (kept : (DeclaredType.decimal digits scale valid).Stores stored) :
    stored = .null ∨ ∃ cell : (DeclaredType.decimalStorage digits).Number,
      stored = .decimal (Decimal.fromUnscaled cell.val scale) ∧
      cell ≠ (DeclaredType.decimalStorage digits).sentinel ∧
      storedInteger? scale stored = some cell.val ∧
      fixedCell (.integer (DeclaredType.decimalStorage digits)) scale stored = cell := by
  cases stored <;> try exact kept.elim
  · exact .inl rfl
  · next number =>
      obtain ⟨unscaled, places⟩ := number
      obtain ⟨same, bounded⟩ := kept
      dsimp only at same bounded
      subst same
      obtain ⟨cell, laid, rfl, other⟩ := fixedCell_decimal scale valid.2.2 bounded
      exact .inr ⟨cell, rfl, other, storedInteger_decimal valid.2.2 bounded, laid⟩

end OutputColumn

end ColumnStore
