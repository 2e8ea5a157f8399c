import ColumnStore.Client.Parameter
import ColumnStore.Engine.StoredStatement
import ColumnStore.Proofs.Column.Materialize

/-!
# What the engine records of a value

A value reaches a parameter as a native datum, which the engine reads at once. What it records
depends on the declared type of the parameter and the value alone (`DeclaredType.Records`). Two
conversions lie between the two, one made by the client and one by the engine, and they lose
what is shorter than a millisecond. A value whose native form is the one reserved for NULL is
recorded as NULL (`DeclaredType.Reserves`); any other is coerced to the type like the value
itself, unless it is a floating point number for a decimal with a scale.

Main results: `DeclaredType.Records.eq_null_iff` and `DeclaredType.Records.coerce_alike`.
-/

set_option autoImplicit false

namespace ColumnStore

/-! ## Native forms -/

/-- The time cut to whole milliseconds, also within a leap second. -/
def Time.cut (time : Time) : Time :=
  { time with
    nano := time.nano / Calendar.nanosPerMilli * Calendar.nanosPerMilli
    nano_lt := time.nano_lt.imp (Nat.lt_of_le_of_lt (Nat.div_mul_le_self _ _))
      (And.imp_right (Nat.lt_of_le_of_lt (Nat.div_mul_le_self _ _))) }

/-- The value cut to whole milliseconds if it has a time. -/
def Value.cut : Value → Value
  | time instant => time instant.cut
  | timestamp instant => timestamp ⟨instant.date, instant.time.cut⟩
  | value => value

/-- The literal stands for the value: it has its times cut to whole milliseconds, or is the same
integer in any width. -/
inductive Value.IsWritten : Value → Value → Prop
  | cut (value : Value) : IsWritten value value.cut
  | integer {kind other : IntegerKind} {number : kind.Number} {written : other.Number}
      (same : written.val = number.val) : IsWritten (.integer kind number) (.integer other written)

/-- A floating point number that is none. -/
def Value.isNaN : Value → Bool
  | float number => number.isNaN
  | double number => number.isNaN
  | _ => false

/-- The value is a floating point number. -/
def Value.IsBinary : Value → Prop
  | float _ => True
  | double _ => True
  | _ => False

/-! ## Native forms that are read back -/

/-- A number is none exactly if the converted one is. -/
theorem Binary.isNaN_convert_eq {format target : BinaryFormat} (precise : 0 < target.precision)
    (reserved : (nan : Binary target).isNaN = true) (number : Binary format) :
    (number.convert target).isNaN = number.isNaN := by
  cases valid : number.isNaN with
  | true => rw [convert, if_pos valid, reserved]
  | false => exact isNaN_convert precise valid

/-- No text is the one reserved for NULL, which is not valid. -/
theorem NativeText.ne_nullText_of_ofString? {text : String} {native : NativeText}
    (handed : ofString? text = some native) : native ≠ NativeDatum.nullText := by
  rintro rfl
  have read := toString_of_ofString? handed
  rw [← read] at handed
  revert handed
  decide

/-- A day is read back from its components. -/
theorem Date.readDate_toCell {date : Date} {cell : DateCell} (laid : date.toCell = .ok cell) :
    StoredStatement.readDate cell = .ok (some date) := by
  rw [StoredStatement.readDate, if_neg (toCell_ne_sentinel laid)]
  simp only [parts_of_toCell laid, ofParts?_self]

/-- A time is read back cut to whole milliseconds. -/
theorem Time.readTime_toCell (time : Time) :
    StoredStatement.readTime time.toCell = .ok (some time.cut) := by
  have nano := time.nano_lt
  have units : Calendar.nanosPerSecond = 1000000000 ∧ Calendar.nanosPerMilli = 1000000 :=
    ⟨rfl, rfl⟩
  have found : ofMillis? time.hour time.minute time.second (time.nano / 1000000) =
      some time.cut := by
    have whole := time.cut.ofParts?_self
    rw [ofMillis?, units.2, if_pos (by omega)]
    exact whole
  rw [StoredStatement.readTime, if_neg time.toCell_ne_sentinel]
  simp only [time.parts_toCell, found]

/-- A day and a time are read back from their components. -/
theorem StoredStatement.readTimestamp_toCell {date : Date} {time : Time} {cell : DateCell}
    (laid : date.toCell = .ok cell) :
    readTimestamp ⟨cell, time.toCell⟩ = .ok (some ⟨date, time.cut⟩) := by
  have other : (⟨cell, time.toCell⟩ : TimestampCell) ≠ TimestampCell.sentinel :=
    fun same => time.toCell_ne_sentinel (congrArg TimestampCell.time same)
  rw [readTimestamp, if_neg other, Date.readDate_toCell laid, Time.readTime_toCell]
  rfl

/-! ## What the engine records -/

namespace DeclaredType

/-- The datum a value is bound as to a parameter of the type. -/
def BindsAs (type : DeclaredType) (value : Value) (datum : NativeDatum) : Prop :=
  if value.isNull then NativeDatum.sentinel? type.storage = some datum
  else Parameter.toDatum type.storage type.scale value = .ok datum

/-- What the engine records for a parameter of the type when a value is bound to it. -/
def Records (type : DeclaredType) (value recorded : Value) : Prop :=
  ∃ datum, type.BindsAs value datum ∧ StoredStatement.read type datum = .ok recorded

/-- Each of the parameters has a value, and of this value something is recorded. -/
def RecordsEach (parameters : List DeclaredType) (values recorded : List Value) : Prop :=
  ∀ (slot : Nat) (type : DeclaredType), parameters[slot]? = some type →
    ∃ value content, values[slot]? = some value ∧ recorded[slot]? = some content ∧
      type.Records value content

/-- The native form of the value is the one that is reserved for NULL: the least integer of the
storage, or no number. -/
def Reserves (type : DeclaredType) (value : Value) : Prop :=
  match type.storage with
  | .integer kind => Parameter.toInteger? type.scale value = some kind.sentinel.val
  | .float => value.isNaN = true
  | .double => value.isNaN = true
  | _ => False

/-- The value keeps its meaning when it is bound: it is not taken for NULL, and is no floating
point number for a decimal with a scale. -/
structure Admits (type : DeclaredType) (value : Value) : Prop where
  kept : ¬ type.Reserves value
  plain : value.IsBinary → type.scale = 0

/-! ## What is recorded -/

section Recorded

variable {type : DeclaredType} {value recorded : Value} {datum : NativeDatum}

theorem bindsAs_of_ne_null (present : value ≠ .null) :
    type.BindsAs value datum ↔ Parameter.toDatum type.storage type.scale value = .ok datum := by
  have shown : value.isNull = false := by
    cases value with
    | null => exact absurd rfl present
    | _ => rfl
  simp [BindsAs, shown]

/-- A fixed-width datum is NULL if it is the one reserved for it. -/
theorem read_fixed {kind : FixedKind} (storage : type.storage = .fixed kind) (cell : kind.Cell) :
    StoredStatement.read type (.fixed kind cell) =
      .ok (if kind.isSentinel cell then .null else StoredStatement.readFixed type kind cell) := by
  unfold StoredStatement.read
  rw [storage]
  dsimp only
  rw [if_neg (not_not_intro rfl)]
  split <;> rfl

/-- NULL is recorded as NULL. -/
theorem Records.null (records : type.Records .null recorded) : recorded = .null := by
  obtain ⟨datum, bound, read⟩ := records
  have reserved : NativeDatum.sentinel? type.storage = some datum := bound
  cases storage : type.storage with
  | fixed kind =>
      rw [storage] at reserved
      cases reserved
      have sentinel : kind.isSentinel kind.sentinel = true := by
        cases kind with
        | bool => decide
        | integer kind => exact decide_eq_true rfl
        | float => exact Binary.isNaN_nan_single
        | double => exact Binary.isNaN_nan_double
      rw [read_fixed storage, if_pos sentinel] at read
      exact (Except.ok.inj read).symm
  | boxed kind =>
      rw [storage] at reserved
      cases kind <;> cases reserved <;> simp only [StoredStatement.read, storage] at read <;>
        cases read <;> rfl
  | unknown => exact absurd storage (OutputColumn.storage_ne_unknown type)

/-- An integer of the storage is recorded, wide or as a decimal. -/
theorem Records.integer {kind : IntegerKind} (records : type.Records value recorded)
    (present : value ≠ .null) (storage : type.storage = .integer kind) :
    ∃ number : kind.Number, Parameter.toInteger? type.scale value = some number.val ∧
      recorded = if number = kind.sentinel then .null
        else StoredStatement.readFixed type (.integer kind) number := by
  obtain ⟨datum, bound, read⟩ := records
  rw [bindsAs_of_ne_null present, storage] at bound
  simp only [Parameter.toDatum, Parameter.toIntegerDatum] at bound
  split at bound
  · cases bound
  · next wide whole =>
      split at bound
      · next number fits =>
          cases bound
          rw [IntegerKind.ofInt?_eq_some] at fits
          refine ⟨number, fits ▸ whole, ?_⟩
          rw [read_fixed storage] at read
          have same := (Except.ok.inj read).symm
          simpa [FixedKind.isSentinel] using same
      · cases bound

/-- The number of 32 bits nearest to the value is recorded, unless it is none. -/
theorem Records.real (records : DeclaredType.real.Records value recorded)
    (present : value ≠ .null) :
    ∃ number : Binary32, number.isNaN = value.isNaN ∧
      (value.isNaN = false → (Coercion.toDouble? value).map (·.convert .single) = some number) ∧
      recorded = if number.isNaN then .null else .float number := by
  obtain ⟨datum, bound, read⟩ := records
  rw [bindsAs_of_ne_null present] at bound
  have shown {number : Binary32} (cell : datum = .fixed .float number) :
      recorded = if number.isNaN then .null else .float number := by
    rw [cell, read_fixed rfl] at read
    exact (Except.ok.inj read).symm
  cases value with
  | float number =>
      exact ⟨number, rfl, fun valid => congrArg some (Binary.convert_double_convert_single valid),
        shown (Except.ok.inj bound).symm⟩
  | double number =>
      exact ⟨_, Binary.isNaN_convert_eq (by decide) Binary.isNaN_nan_single number, fun _ => rfl,
        shown (Except.ok.inj bound).symm⟩
  | decimal number =>
      refine ⟨_, ?_, fun _ => rfl, shown (Except.ok.inj bound).symm⟩
      rw [Binary.isNaN_convert_eq (by decide) Binary.isNaN_nan_single]
      exact Binary.isNaN_ofDecimal (by decide) number
  | _ => cases bound

/-- The number of 64 bits nearest to the value is recorded, unless it is none. -/
theorem Records.double (records : DeclaredType.double.Records value recorded)
    (present : value ≠ .null) :
    ∃ number : Binary64, number.isNaN = value.isNaN ∧
      Coercion.toDouble? value = some number ∧
      recorded = if number.isNaN then .null else .double number := by
  obtain ⟨datum, bound, read⟩ := records
  rw [bindsAs_of_ne_null present] at bound
  have shown {number : Binary64} (cell : datum = .fixed .double number) :
      recorded = if number.isNaN then .null else .double number := by
    rw [cell, read_fixed rfl] at read
    exact (Except.ok.inj read).symm
  cases value with
  | float number =>
      exact ⟨_, Binary.isNaN_convert_eq (by decide) Binary.isNaN_nan_double number, rfl,
        shown (Except.ok.inj bound).symm⟩
  | double number => exact ⟨number, rfl, rfl, shown (Except.ok.inj bound).symm⟩
  | decimal number =>
      exact ⟨_, Binary.isNaN_ofDecimal (by decide) number, rfl, shown (Except.ok.inj bound).symm⟩
  | _ => cases bound

theorem Records.boolean (records : DeclaredType.boolean.Records value recorded)
    (present : value ≠ .null) : ∃ truth, value = .bool truth ∧ recorded = .bool truth := by
  obtain ⟨datum, bound, read⟩ := records
  rw [bindsAs_of_ne_null present] at bound
  cases value with
  | bool truth =>
      refine ⟨truth, rfl, ?_⟩
      cases Except.ok.inj bound
      rw [read_fixed rfl] at read
      cases truth <;> exact (Except.ok.inj read).symm
  | _ => cases bound

theorem Records.varchar {limit : Nat}
    (records : (DeclaredType.varchar limit).Records value recorded) (present : value ≠ .null) :
    ∃ text, value = .str text ∧ recorded = .str text := by
  obtain ⟨datum, bound, read⟩ := records
  rw [bindsAs_of_ne_null present] at bound
  cases value with
  | str text =>
      change Parameter.toPlainDatum .str (.str text) = .ok datum at bound
      unfold Parameter.toPlainDatum at bound
      dsimp only at bound
      split at bound
      · next native accepted =>
          cases bound
          have shown : Except.ok (if native = NativeDatum.nullText then Value.null
            else .str native.toString) = Except.ok recorded := read
          rw [if_neg (NativeText.ne_nullText_of_ofString? accepted),
            NativeText.toString_of_ofString? accepted] at shown
          exact ⟨text, rfl, (Except.ok.inj shown).symm⟩
      · cases bound
  | _ => cases bound

theorem Records.blob (records : DeclaredType.blob.Records value recorded)
    (present : value ≠ .null) : ∃ bytes, value = .blob bytes ∧ recorded = .blob bytes := by
  obtain ⟨datum, bound, read⟩ := records
  rw [bindsAs_of_ne_null present] at bound
  cases value with
  | blob bytes =>
      cases bound
      cases read
      exact ⟨bytes, rfl, rfl⟩
  | _ => cases bound

theorem Records.date (records : DeclaredType.date.Records value recorded)
    (present : value ≠ .null) : ∃ day, value = .date day ∧ recorded = .date day := by
  obtain ⟨datum, bound, read⟩ := records
  rw [bindsAs_of_ne_null present] at bound
  cases value with
  | date day =>
      obtain ⟨cell, laid, rfl⟩ := Except.map_eq_ok.1 bound
      obtain ⟨found, one, whole⟩ := Except.bind_eq_ok.1 read
      rw [Date.readDate_toCell laid] at one
      cases one
      cases whole
      exact ⟨day, rfl, rfl⟩
  | _ => cases bound

theorem Records.time (records : DeclaredType.time.Records value recorded)
    (present : value ≠ .null) :
    ∃ instant, value = .time instant ∧ recorded = .time instant.cut := by
  obtain ⟨datum, bound, read⟩ := records
  rw [bindsAs_of_ne_null present] at bound
  cases value with
  | time instant =>
      cases bound
      obtain ⟨found, one, whole⟩ := Except.bind_eq_ok.1 read
      rw [Time.readTime_toCell] at one
      cases one
      cases whole
      exact ⟨instant, rfl, rfl⟩
  | _ => cases bound

/-- A day is a timestamp at its midnight. -/
theorem Records.timestamp (records : DeclaredType.timestamp.Records value recorded)
    (present : value ≠ .null) : ∃ day time, recorded = .timestamp ⟨day, time.cut⟩ ∧
      (value = .timestamp ⟨day, time⟩ ∨ value = .date day ∧ time = Time.midnight) := by
  obtain ⟨datum, bound, read⟩ := records
  rw [bindsAs_of_ne_null present] at bound
  have shown {day : Date} {time : Time} {cell : DateCell} (laid : day.toCell = .ok cell)
      (whole : datum = .timestamp ⟨cell, time.toCell⟩) : recorded = .timestamp ⟨day, time.cut⟩ := by
    subst whole
    obtain ⟨found, one, whole⟩ := Except.bind_eq_ok.1 read
    rw [StoredStatement.readTimestamp_toCell laid] at one
    cases one
    cases whole
    rfl
  cases value with
  | timestamp instant =>
      obtain ⟨cell, laid, rfl⟩ := Except.map_eq_ok.1 bound
      obtain ⟨part, one, whole⟩ := Except.bind_eq_ok.1 laid
      cases whole
      exact ⟨instant.date, instant.time, shown one rfl, .inl rfl⟩
  | date day =>
      obtain ⟨cell, laid, whole⟩ := Except.bind_eq_ok.1 bound
      exact ⟨day, Time.midnight, shown laid (Except.ok.inj whole).symm, .inr ⟨rfl, rfl⟩⟩
  | _ => cases bound

/-- Texts and blobs are recorded as they are, times cut to whole milliseconds, and a day for a
timestamp as its midnight. -/
theorem Records.boxed {kind : BoxedKind} (records : type.Records value recorded)
    (present : value ≠ .null) (storage : type.storage = .boxed kind) :
    recorded = value.cut ∨ ∃ day, type = .timestamp ∧ value = .date day ∧
      recorded = .timestamp ⟨day, Time.midnight⟩ := by
  cases type with
  | varchar limit =>
      obtain ⟨text, rfl, rfl⟩ := records.varchar present
      exact .inl rfl
  | blob =>
      obtain ⟨bytes, rfl, rfl⟩ := records.blob present
      exact .inl rfl
  | date =>
      obtain ⟨day, rfl, rfl⟩ := records.date present
      exact .inl rfl
  | time =>
      obtain ⟨instant, rfl, rfl⟩ := records.time present
      exact .inl rfl
  | timestamp =>
      obtain ⟨day, time, rfl, rfl | ⟨rfl, rfl⟩⟩ := records.timestamp present
      · exact .inl rfl
      · exact .inr ⟨day, rfl, rfl, rfl⟩
  | _ => cases storage

end Recorded

/-! ## NULL and coercion -/

section Coerced

variable {type : DeclaredType} {value recorded : Value}

theorem Records.boxed_ne_null {kind : BoxedKind} (records : type.Records value recorded)
    (present : value ≠ .null) (storage : type.storage = .boxed kind) : recorded ≠ .null := by
  rcases records.boxed present storage with rfl | ⟨day, _, _, rfl⟩
  · cases value with
    | null => exact absurd rfl present
    | _ => exact nofun
  · exact nofun

theorem Records.real_eq_null_iff (records : DeclaredType.real.Records value recorded)
    (present : value ≠ .null) : recorded = .null ↔ value.isNaN = true := by
  obtain ⟨number, same, _, rfl⟩ := records.real present
  rw [same]
  cases value.isNaN <;> simp

theorem Records.double_eq_null_iff (records : DeclaredType.double.Records value recorded)
    (present : value ≠ .null) : recorded = .null ↔ value.isNaN = true := by
  obtain ⟨number, same, _, rfl⟩ := records.double present
  rw [same]
  cases value.isNaN <;> simp

theorem Records.integer_eq_null_iff {kind : IntegerKind} (records : type.Records value recorded)
    (present : value ≠ .null) (storage : type.storage = .integer kind) :
    recorded = .null ↔ Parameter.toInteger? type.scale value = some kind.sentinel.val := by
  obtain ⟨number, found, rfl⟩ := records.integer present storage
  have wide (n : Int) : StoredStatement.readInteger type n ≠ .null := by
    rw [StoredStatement.readInteger]
    split <;> exact nofun
  have other : StoredStatement.readFixed type (.integer kind) number ≠ .null := by
    cases kind with
    | size => exact nofun
    | _ => exact wide number.val
  rw [found, Option.some_inj, ← Subtype.ext_iff]
  split
  · next reserved => simp [reserved]
  · next kept => simp [kept, other]

/-- **A value is recorded as NULL exactly if it is NULL or its native form is the one that is
reserved for NULL.** -/
theorem Records.eq_null_iff (records : type.Records value recorded) (present : value ≠ .null) :
    recorded = .null ↔ type.Reserves value := by
  cases type with
  | boolean =>
      obtain ⟨truth, rfl, rfl⟩ := records.boolean present
      exact ⟨nofun, False.elim⟩
  | integer kind => exact records.integer_eq_null_iff present rfl
  | decimal digits scale valid => exact records.integer_eq_null_iff present rfl
  | real => exact records.real_eq_null_iff present
  | double => exact records.double_eq_null_iff present
  | _ => exact ⟨fun absent => absurd absent (records.boxed_ne_null present rfl), False.elim⟩

theorem toInteger?_cut (value : Value) :
    Coercion.toInteger? value.cut = Coercion.toInteger? value := by
  cases value <;> rfl

theorem toDouble?_cut (value : Value) :
    Coercion.toDouble? value.cut = Coercion.toDouble? value := by
  cases value <;> rfl

theorem isNull_cut (present : value ≠ .null) : value.cut.isNull = false := by
  cases value with
  | null => exact absurd rfl present
  | _ => rfl

/-- Within 128 bits an integer loses nothing. -/
theorem wrap_int128 {kind : IntegerKind} (number : kind.Number) :
    (IntegerKind.int128.wrap number.val).val = number.val :=
  congrArg Subtype.val (IntegerKind.wrap_val (IntegerKind.widest number))

/-- A value that is the integer coerces to it. -/
theorem coerce_integer {kind : IntegerKind} {number : kind.Number} (present : value.isNull = false)
    (found : Coercion.toInteger? value = some number.val) :
    (DeclaredType.integer kind).coerce value = .ok (.integer kind number) := by
  rw [coerce, if_neg (by simp [present])]
  show Coercion.coerceInteger kind value = _
  simp only [Coercion.coerceInteger, found, IntegerKind.ofInt?_val]

theorem Records.coerce_integer_eq {kind : IntegerKind}
    (records : (DeclaredType.integer kind).Records value recorded) (present : value ≠ .null)
    (kept : ¬ (DeclaredType.integer kind).Reserves value) :
    (DeclaredType.integer kind).coerce recorded = (DeclaredType.integer kind).coerce value.cut := by
  obtain ⟨number, found, rfl⟩ := records.integer present rfl
  have other : number ≠ kind.sentinel := by
    rintro rfl
    exact kept found
  have direct : Coercion.toInteger? value.cut = some number.val := by
    rw [toInteger?_cut, ← found]
    cases value <;> rfl
  rw [if_neg other, coerce_integer (isNull_cut present) direct]
  refine coerce_integer ?_ ?_
  · cases kind <;> rfl
  · cases kind with
    | size => rfl
    | _ => exact congrArg some (wrap_int128 number)

/-- What a value coerces to whose decimal is cut to the scale. -/
theorem coerceDecimal_of_toDecimal {digits scale : Nat} {number : Decimal}
    {unscaled : IntegerKind.int128.Number} (read : Coercion.toDecimal value = .ok number)
    (cut : number.toUnscaled? scale = some unscaled) :
    Coercion.coerceDecimal digits scale value =
      if unscaled.val.natAbs < Nat.pow 10 digits then
        .ok (.decimal (Decimal.fromUnscaled unscaled.val scale))
      else .error (.exceedsDecimal number digits scale) := by
  simp only [Coercion.coerceDecimal, read, bind, Except.bind, cut]
  rfl

/-- The integer that is bound for a value is that of the value as a decimal, cut to the scale. -/
theorem exists_toDecimal {scale : Nat} {unscaled : IntegerKind.int128.Number}
    (plain : value.IsBinary → scale = 0)
    (found : Parameter.toInteger? scale value = some unscaled.val) :
    ∃ number, Coercion.toDecimal value.cut = .ok number ∧
      number.toUnscaled? scale = some unscaled := by
  by_cases scaled : scale = 0
  · subst scaled
    have whole {n : Int} (same : n = unscaled.val) :
        (Decimal.ofInt n).toUnscaled? 0 = some unscaled :=
      same ▸ Decimal.toUnscaled?_fromUnscaled unscaled 0
    have read : Coercion.toInteger? value = some unscaled.val := by
      rw [← found]
      cases value <;> rfl
    cases value with
    | decimal number =>
        obtain ⟨n, read, same⟩ := Option.map_eq_some_iff.1 read
        obtain ⟨cut, _⟩ := Option.filter_eq_some_iff.1 read
        exact ⟨number, rfl, by rw [cut, Subtype.ext same]⟩
    | bool truth => exact ⟨_, rfl, whole (Option.some.inj read)⟩
    | integer kind n => exact ⟨_, rfl, whole (Option.some.inj read)⟩
    | _ => cases read
  · have cut : (Parameter.toDecimal? value).bind
        (fun number => (number.toUnscaled? scale).map (·.val)) = some unscaled.val := by
      rw [← found]
      exact (if_pos scaled).symm
    obtain ⟨number, read, cut⟩ := Option.bind_eq_some_iff.1 cut
    obtain ⟨n, cut, same⟩ := Option.map_eq_some_iff.1 cut
    refine ⟨number, ?_, by rw [cut, Subtype.ext same]⟩
    cases value with
    | decimal number => cases read; rfl
    | float number => exact absurd (plain trivial) scaled
    | double number => exact absurd (plain trivial) scaled
    | bool truth => cases read; rfl
    | integer kind n => cases read; rfl
    | _ => cases read

/-- An integer of a decimal parameter is recorded as the decimal that it is unscaled. -/
theorem readFixed_decimal {digits scale : Nat} {valid : 0 < digits ∧ scale ≤ digits ∧ digits ≤ 38}
    {kind : IntegerKind} (signed : kind ≠ .size) (number : kind.Number) :
    StoredStatement.readFixed (decimal digits scale valid) (.integer kind) number =
      .decimal (Decimal.fromUnscaled number.val scale) := by
  cases kind with
  | size => exact absurd rfl signed
  | _ => rfl

theorem Records.coerce_decimal_alike {digits scale : Nat}
    {valid : 0 < digits ∧ scale ≤ digits ∧ digits ≤ 38}
    (records : (DeclaredType.decimal digits scale valid).Records value recorded)
    (present : value ≠ .null) (kept : ¬ (DeclaredType.decimal digits scale valid).Reserves value)
    (plain : value.IsBinary → scale = 0) :
    Except.Alike ((DeclaredType.decimal digits scale valid).coerce recorded)
      ((DeclaredType.decimal digits scale valid).coerce value.cut) := by
  obtain ⟨number, found, rfl⟩ := records.integer present rfl
  have other : number ≠ (decimalStorage digits).sentinel := by
    rintro rfl
    exact kept found
  let unscaled := IntegerKind.widest number
  have bound : Parameter.toInteger? scale value = some unscaled.val := found
  obtain ⟨wide, read, cut⟩ := exists_toDecimal plain bound
  rw [if_neg other, readFixed_decimal (decimalStorage_ne_size digits) number, coerce, coerce,
    if_neg (show ¬ (Value.decimal _).isNull = true from Bool.false_ne_true),
    if_neg (by simp [isNull_cut present])]
  show Except.Alike (Coercion.coerceDecimal digits scale _)
    (Coercion.coerceDecimal digits scale value.cut)
  rw [coerceDecimal_of_toDecimal rfl (Decimal.toUnscaled?_fromUnscaled unscaled scale),
    coerceDecimal_of_toDecimal read cut]
  split
  · exact .ok _
  · exact .error _ _

theorem Records.coerce_real_eq (records : DeclaredType.real.Records value recorded)
    (present : value ≠ .null) (kept : value.isNaN = false) :
    DeclaredType.real.coerce recorded = DeclaredType.real.coerce value.cut := by
  obtain ⟨number, same, nearest, rfl⟩ := records.real present
  obtain ⟨wide, read, rfl⟩ := Option.map_eq_some_iff.1 (nearest kept)
  have valid : (wide.convert .single).isNaN = false := same.trans kept
  have direct : DeclaredType.real.coerce value.cut = .ok (.float (wide.convert .single)) := by
    rw [coerce, if_neg (by simp [isNull_cut present])]
    simp only [toDouble?_cut, read]
  have again : DeclaredType.real.coerce (.float (wide.convert .single)) =
      .ok (.float (((wide.convert .single).convert .double).convert .single)) := rfl
  rw [if_neg (by simp [valid]), direct, again, Binary.convert_double_convert_single valid]

theorem Records.coerce_double_eq (records : DeclaredType.double.Records value recorded)
    (present : value ≠ .null) (kept : value.isNaN = false) :
    DeclaredType.double.coerce recorded = DeclaredType.double.coerce value.cut := by
  obtain ⟨number, same, read, rfl⟩ := records.double present
  have direct : DeclaredType.double.coerce value.cut = .ok (.double number) := by
    rw [coerce, if_neg (by simp [isNull_cut present])]
    simp only [toDouble?_cut, read]
  rw [if_neg (by simp [same, kept]), direct]
  rfl

theorem Records.coerce_boxed_eq {kind : BoxedKind} (records : type.Records value recorded)
    (present : value ≠ .null) (storage : type.storage = .boxed kind) :
    type.coerce recorded = type.coerce value.cut := by
  rcases records.boxed present storage with rfl | ⟨day, rfl, rfl, rfl⟩ <;> rfl

/-- A literal that stands for a value coerces like it. -/
theorem coerce_alike_of_isWritten {literal : Value} (written : value.IsWritten literal) :
    Except.Alike (type.coerce value.cut) (type.coerce literal) := by
  cases written with
  | cut => exact .refl _
  | @integer kind other number wide same =>
      obtain ⟨number, _⟩ := number
      obtain ⟨wide, _⟩ := wide
      obtain rfl : wide = number := same
      -- only what a refusal quotes tells the two apart
      cases type with
      | boolean =>
          show Except.Alike (Coercion.coerceBoolean (.integer _ ⟨wide, _⟩))
            (Coercion.coerceBoolean (.integer other ⟨wide, _⟩))
          simp only [Coercion.coerceBoolean, Value.toInt?]
          split <;> constructor
      | integer target =>
          show Except.Alike (Coercion.coerceInteger target (.integer kind ⟨wide, _⟩))
            (Coercion.coerceInteger target (.integer other ⟨wide, _⟩))
          simp only [Coercion.coerceInteger, Coercion.toInteger?, Value.toInt?]
          split <;> constructor
      | blob => exact .error _ _
      | date => exact .error _ _
      | time => exact .error _ _
      | timestamp => exact .error _ _
      | _ => exact .refl _

/-- **What is recorded coerces like the value cut to whole milliseconds**, unless the native form
of the value is reserved for NULL, or it is a floating point number for a decimal with a scale. -/
theorem Records.coerce_alike (records : type.Records value recorded)
    (admits : type.Admits value) :
    Except.Alike (type.coerce recorded) (type.coerce value.cut) := by
  obtain ⟨kept, plain⟩ := admits
  by_cases present : value = .null
  · subst present
    rw [records.null]
    exact .refl _
  cases type with
  | boolean =>
      obtain ⟨truth, rfl, rfl⟩ := records.boolean present
      exact .refl _
  | integer kind => exact .of_eq (records.coerce_integer_eq present kept)
  | decimal digits scale valid => exact records.coerce_decimal_alike present kept plain
  | real => exact .of_eq (records.coerce_real_eq present (Bool.eq_false_of_not_eq_true kept))
  | double => exact .of_eq (records.coerce_double_eq present (Bool.eq_false_of_not_eq_true kept))
  | _ => exact .of_eq (records.coerce_boxed_eq present rfl)

end Coerced

end DeclaredType

end ColumnStore
