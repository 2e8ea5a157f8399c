import ColumnStore.Calendar.Timestamp
import ColumnStore.Error
import ColumnStore.Text.NativeText

/-!
# Native cells

How the engine holds a single value. Dates and times are plain components, which need not
name a day or an instant. A text may be absent, and so may the octets of a blob, whose size
is known all the same. For every type one cell is reserved to stand for NULL: its
`sentinel`.
-/

set_option autoImplicit false

namespace ColumnStore

/-- The components of a date. -/
structure DateCell where
  year : IntegerKind.int16.Number
  month : UInt8
  day : UInt8
  deriving DecidableEq, Repr

/-- The components of a time, to the millisecond. -/
structure TimeCell where
  hours : UInt8
  minutes : UInt8
  seconds : UInt8
  millis : UInt32
  deriving DecidableEq, Repr

/-- The components of a date and a time. -/
structure TimestampCell where
  date : DateCell
  time : TimeCell
  deriving DecidableEq, Repr

/-- The octets of a blob, or only the size they should have. -/
inductive BlobCell
  | missing (size : Nat)
  | bytes (content : Bytes)
  deriving DecidableEq, Repr

namespace DateCell

/-- The components reserved for NULL. -/
def sentinel : DateCell :=
  ⟨IntegerKind.int16.sentinel, 255, 255⟩

end DateCell

namespace TimeCell

/-- The components reserved for NULL. -/
def sentinel : TimeCell :=
  ⟨255, 255, 255, 4294967295⟩

/-- All components zero. -/
def midnight : TimeCell :=
  ⟨0, 0, 0, 0⟩

end TimeCell

/-- The components reserved for NULL. -/
def TimestampCell.sentinel : TimestampCell :=
  ⟨DateCell.sentinel, TimeCell.sentinel⟩

/-- The components of a date; the year has to fit 16 bits. -/
def Date.toCell (date : Date) : Except Error DateCell :=
  match IntegerKind.int16.ofInt? date.year with
  | some year => .ok ⟨year, UInt8.ofNat date.month, UInt8.ofNat date.day⟩
  | none => .error (.outOfRange (.year date.year))

/-- The components of a time, cut to whole milliseconds. -/
def Time.toCell (time : Time) : TimeCell :=
  ⟨UInt8.ofNat time.hour, UInt8.ofNat time.minute, UInt8.ofNat time.second,
    UInt32.ofNat time.milli⟩

/-- The components of a timestamp. -/
def Timestamp.toCell (timestamp : Timestamp) : Except Error TimestampCell := do
  let date ← timestamp.date.toCell
  return ⟨date, timestamp.time.toCell⟩

/-- What a cell of a fixed-width type holds; truth values are 8-bit integers. -/
abbrev FixedKind.Cell : FixedKind → Type
  | .bool => IntegerKind.int8.Number
  | .integer kind => kind.Number
  | .float => Binary32
  | .double => Binary64

/-- What a cell of a boxed type holds. -/
abbrev BoxedKind.Cell : BoxedKind → Type
  | .str => Option NativeText
  | .blob => BlobCell
  | .date => DateCell
  | .time => TimeCell
  | .timestamp => TimestampCell

namespace FixedKind

/-- The zero of a fixed-width type. -/
def zero : (kind : FixedKind) → kind.Cell
  | .bool => IntegerKind.int8.zero
  | .integer kind => kind.zero
  | .float => Binary.zero
  | .double => Binary.zero

/-- The cell reserved for NULL. -/
def sentinel : (kind : FixedKind) → kind.Cell
  | .bool => IntegerKind.int8.sentinel
  | .integer kind => kind.sentinel
  | .float => Binary.nan
  | .double => Binary.nan

/-- Whether a cell stands for NULL; every pattern that is no number does. -/
def isSentinel : (kind : FixedKind) → kind.Cell → Bool
  | .bool, cell => cell = IntegerKind.int8.sentinel
  | .integer kind, cell => cell = kind.sentinel
  | .float, cell => Binary.isNaN cell
  | .double, cell => Binary.isNaN cell

/-- The octets of a cell. -/
def cellBytes : (kind : FixedKind) → kind.Cell → Bytes
  | .bool, cell => IntegerKind.int8.bytes cell
  | .integer kind, cell => kind.bytes cell
  | .float, cell => Binary.bytes cell
  | .double, cell => Binary.bytes cell

end FixedKind

namespace BoxedKind

/-- The cell reserved for NULL in a column. -/
def sentinel : (kind : BoxedKind) → kind.Cell
  | .str => none
  | .blob => .missing 0
  | .date => DateCell.sentinel
  | .time => TimeCell.sentinel
  | .timestamp => TimestampCell.sentinel

end BoxedKind

/-- A single native value on its way into a statement parameter. -/
inductive NativeDatum
  | fixed (kind : FixedKind) (cell : kind.Cell)
  /-- A text, which is never absent. -/
  | text (content : NativeText)
  | blob (cell : BlobCell)
  | date (cell : DateCell)
  | time (cell : TimeCell)
  | timestamp (cell : TimestampCell)

namespace NativeDatum

/-- The text that stands for NULL in a parameter: the single octet 0x80. -/
def nullText : NativeText :=
  ⟨[0x80], by decide⟩

/-- The datum reserved for NULL, for each type that has one. -/
def sentinel? : ColumnType → Option NativeDatum
  | .fixed kind => some (.fixed kind kind.sentinel)
  | .str => some (.text nullText)
  | .blob => some (.blob (.missing 0))
  | .date => some (.date DateCell.sentinel)
  | .time => some (.time TimeCell.sentinel)
  | .timestamp => some (.timestamp TimestampCell.sentinel)
  | .unknown => none

end NativeDatum

end ColumnStore
