import ColumnStore.Native.Cell
import ColumnStore.TagLayout

/-!
# Column descriptors

How the engine hands out a column of a result: a type tag, a name, the digits and the
scale of its SQL type, and the cells with a test that tells which of them are NULL. The
cells lie in a buffer of the engine, or there is none and only their number is known.
-/

set_option autoImplicit false

namespace ColumnStore

/-- Where the cells of a column are. -/
inductive Storage (α : Type)
  /-- Nowhere, with the number of cells there should be. -/
  | missing (count : Nat)
  | buffer (cells : List α)
  deriving DecidableEq, Repr

/-- How many cells a storage is said to have. -/
def Storage.count {α : Type} : Storage α → Nat
  | missing count => count
  | buffer cells => cells.length

/-- Cells and the engine's test for NULL, which answers with a number. -/
structure CellArray (α : Type) where
  storage : Storage α
  nullTest : Option (α → Int32)

namespace CellArray

/-- Whether a cell is NULL: the test answers anything but zero. Without a test no cell is. -/
def isNull {α : Type} (array : CellArray α) (cell : α) : Bool :=
  match array.nullTest with
  | some test => test cell ≠ 0
  | none => false

/-- The same test over other cells. -/
def withStorage {α : Type} (array : CellArray α) (storage : Storage α) : CellArray α :=
  { array with storage }

end CellArray

/-- The cells of a column, by the kind of their type. -/
inductive ColumnCells
  | fixed (kind : FixedKind) (array : CellArray kind.Cell)
  | boxed (kind : BoxedKind) (array : CellArray kind.Cell)

namespace ColumnCells

/-- How many cells a column is said to have. -/
def count : ColumnCells → Nat
  | fixed _ array => array.storage.count
  | boxed _ array => array.storage.count

/-- Whether the cells lie in a buffer. -/
def hasBuffer : ColumnCells → Bool
  | fixed _ ⟨.buffer _, _⟩ => true
  | boxed _ ⟨.buffer _, _⟩ => true
  | _ => false

/-- The octets of a buffer of fixed-width cells. -/
def bytes? : ColumnCells → Option Bytes
  | fixed kind ⟨.buffer cells, _⟩ => some (cells.flatMap kind.cellBytes)
  | _ => none

/-- The type the cells are laid out for. -/
def type : ColumnCells → ColumnType
  | fixed kind _ => .fixed kind
  | boxed kind _ => .boxed kind

end ColumnCells

/-- A column of a result as the engine hands it out. -/
structure Descriptor where
  tag : Int32
  name : Option NativeText
  digits : Nat
  scale : Nat
  cells : ColumnCells

namespace Descriptor

/-- The name callers see; a column without one has the empty name. -/
def label (descriptor : Descriptor) : String :=
  match descriptor.name with
  | some name => name.toString
  | none => ""

end Descriptor

/-- The answer of a null test: one for NULL, zero otherwise. -/
def truthTest {α : Type} (isNull : α → Bool) (cell : α) : Int32 :=
  if isNull cell then 1 else 0

namespace BoxedKind

/-- Whether a cell stands for NULL: a text or blob that is not there, or the reserved
components. -/
def isSentinel : (kind : BoxedKind) → kind.Cell → Bool
  | .str, cell => cell.isNone
  | .blob, .missing _ => true
  | .blob, .bytes _ => false
  | .date, cell => cell = DateCell.sentinel
  | .time, cell => cell = TimeCell.sentinel
  | .timestamp, cell => cell = TimestampCell.sentinel

end BoxedKind

/-- Fixed-width cells with the engine's own test. -/
def CellArray.ofFixed (kind : FixedKind) (cells : List kind.Cell) : CellArray kind.Cell :=
  ⟨.buffer cells, some (truthTest kind.isSentinel)⟩

/-- Boxed cells with the engine's own test. -/
def CellArray.ofBoxed (kind : BoxedKind) (cells : List kind.Cell) : CellArray kind.Cell :=
  ⟨.buffer cells, some (truthTest kind.isSentinel)⟩

end ColumnStore
