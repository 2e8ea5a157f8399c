import ColumnStore.Column

/-!
# From descriptors to columns

Materializing a column decodes its tag and brings its cells into the form callers see.
Fixed-width cells are changed in place: every NULL becomes the zero of the type, so a
second pass over the same descriptor sees zeros where the first saw NULL. Boxed cells are
copied, and a cell that names no day or instant is copied as NULL.
-/

set_option autoImplicit false

namespace ColumnStore

namespace DateCell

/-- Whether each component lies in its range. The month may still not have such a day. -/
def isOrderly (cell : DateCell) : Bool :=
  decide (0 < cell.year.val) && decide (1 ≤ cell.month.toNat ∧ cell.month.toNat ≤ 12) &&
    decide (1 ≤ cell.day.toNat ∧ cell.day.toNat ≤ 31)

/-- The day the components name; years before the first name none. -/
def toDate? (cell : DateCell) : Option Date :=
  if cell.isOrderly then
    Date.ofParts? cell.year.val cell.month.toNat cell.day.toNat
  else none

end DateCell

namespace TimeCell

/-- Whether each component lies in its range; a second has a thousand milliseconds. -/
def isOrderly (cell : TimeCell) : Bool :=
  decide (cell.hours.toNat < 24) && decide (cell.minutes.toNat < 60) &&
    decide (cell.seconds.toNat < 60) && decide (cell.millis.toNat < 1000)

/-- The instant the components name. -/
def toTime? (cell : TimeCell) : Option Time :=
  if cell.isOrderly then
    Time.ofMillis? cell.hours.toNat cell.minutes.toNat cell.seconds.toNat cell.millis.toNat
  else none

end TimeCell

/-- The day and instant the components name. -/
def TimestampCell.toTimestamp? (cell : TimestampCell) : Option Timestamp := do
  let date ← cell.date.toDate?
  let time ← cell.time.toTime?
  return ⟨date, time⟩

/-- The octets of a blob; if there are none the size has to be zero. -/
def BlobCell.content? : BlobCell → Option Bytes
  | .bytes content => some content
  | .missing size => if size = 0 then some [] else none

/-- What a boxed cell holds, if it is sound. -/
def BoxedKind.content? : (kind : BoxedKind) → kind.Cell → Option kind.Content
  | .str, cell => cell.map NativeText.toString
  | .blob, cell => cell.content?
  | .date, cell => cell.toDate?
  | .time, cell => cell.toTime?
  | .timestamp, cell => cell.toTimestamp?

namespace BoxedColumn

/-- Copy boxed cells; without a buffer every row is NULL. -/
def ofCells (kind : BoxedKind) (array : CellArray kind.Cell) : BoxedColumn :=
  match array.storage with
  | .missing count => ⟨kind, List.replicate count none⟩
  | .buffer cells =>
      ⟨kind, cells.map fun cell => if array.isNull cell then none else kind.content? cell⟩

end BoxedColumn

/-- Fixed-width cells whose NULLs are being set to zero, and the flags of the rows that were NULL.
There are no flags before the first such row. -/
structure Sweep (kind : FixedKind) where
  cells : List kind.Cell
  nulls : Option (List Bool)

namespace Sweep

variable {kind : FixedKind}

/-- Flag a row; the first flag makes a mask for all rows. -/
def flag (sweep : Sweep kind) (row : Nat) : List Bool :=
  (sweep.nulls.getD (List.replicate sweep.cells.length false)).set row true

/-- Look at one row. If the test tells that it is NULL, its cell becomes zero, and a column with a
scale flags it. -/
def visit (scale : Nat) (test : kind.Cell → Int32) (sweep : Sweep kind) (row : Nat) :
    Sweep kind :=
  match sweep.cells[row]? with
  | none => sweep
  | some cell =>
      if test cell = 0 then sweep
      else
        { cells := sweep.cells.set row kind.zero
          nulls := if scale ≠ 0 then some (sweep.flag row) else sweep.nulls }

/-- Look at all rows in order. -/
def overAll (scale : Nat) (test : kind.Cell → Int32) (cells : List kind.Cell) : Sweep kind :=
  (List.range cells.length).foldl (visit scale test) ⟨cells, none⟩

end Sweep

namespace FixedColumn

/-- Set the NULLs of fixed-width cells to zero. The buffer afterwards and the view of
it are answered together. -/
def ofCells (kind : FixedKind) (digits scale : Nat) (array : CellArray kind.Cell) :
    Except Error FixedColumn × CellArray kind.Cell :=
  match array.storage with
  | .missing 0 => (.ok ⟨kind, [], digits, scale, none⟩, array)
  | .missing count =>
      (.error (.native .resultFetch s!"column has {count} rows but no data buffer"), array)
  | .buffer cells =>
      let sweep : Sweep kind :=
        match array.nullTest with
        | some test => .overAll scale test cells
        | none => ⟨cells, none⟩
      (.ok ⟨kind, sweep.cells, digits, scale, sweep.nulls⟩, array.withStorage (.buffer sweep.cells))

end FixedColumn

namespace ColumnCells

/-- Materialize cells of a type; they have to be laid out for it. -/
def materialize (cells : ColumnCells) (type : ColumnType) (digits scale : Nat)
    (unsupported : Error) : Except Error ColumnData × ColumnCells :=
  if cells.type = type then
    match cells with
    | fixed kind array =>
        let (view, array) := FixedColumn.ofCells kind digits scale array
        (ColumnData.fixed <$> view, fixed kind array)
    | boxed kind array => (.ok (.boxed (BoxedColumn.ofCells kind array)), boxed kind array)
  else (.error unsupported, cells)

end ColumnCells

namespace Descriptor

/-- Materialize the column with this index. The descriptor afterwards differs from the one
before at most in the cells that were set to zero. -/
def materialize (descriptor : Descriptor) (layout : TagLayout) (index : Nat) :
    Except Error Column × Descriptor :=
  let unsupported := Error.unsupportedType index descriptor.tag
  match layout.decode? descriptor.tag with
  | .error stop => (.error stop, descriptor)
  | .ok none => (.error unsupported, descriptor)
  | .ok (some type) =>
      let (data, cells) := descriptor.cells.materialize type descriptor.digits
        descriptor.scale unsupported
      (Column.mk descriptor.label <$> data, { descriptor with cells })

end Descriptor

end ColumnStore
