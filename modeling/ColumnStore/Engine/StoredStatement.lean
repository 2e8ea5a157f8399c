import ColumnStore.Engine.Description
import ColumnStore.Engine.Parameters

/-!
# Prepared statements in the engine

A prepared statement keeps the types of its parameters and the values bound to them. A
bound datum is read at once: the datum reserved for NULL is NULL, an integer loses its
width, and for a decimal parameter it is the unscaled integer.
-/

set_option autoImplicit false

namespace ColumnStore

/-- A prepared statement of a database. -/
structure StoredStatement where
  database : Handle .database
  statement : Statement
  parameters : List DeclaredType
  /-- The value of each parameter, once one has been bound. -/
  bound : List (Option Value)

namespace StoredStatement

/-- The day of bound components, none for the reserved ones. -/
def readDate (cell : DateCell) : Except Failure (Option Date) :=
  if cell = DateCell.sentinel then .ok none
  else
    match Date.ofParts? cell.year.val cell.month.toNat cell.day.toNat with
    | some date => .ok (some date)
    | none => .error (.impossibleDate cell)

/-- The instant of bound components, none for the reserved ones. -/
def readTime (cell : TimeCell) : Except Failure (Option Time) :=
  if cell = TimeCell.sentinel then .ok none
  else
    match Time.ofMillis? cell.hours.toNat cell.minutes.toNat cell.seconds.toNat
        cell.millis.toNat with
    | some time => .ok (some time)
    | none => .error (.impossibleTime cell)

/-- The day and instant of bound components, none for the reserved ones; it is wrong to
reserve only a half. -/
def readTimestamp (cell : TimestampCell) : Except Failure (Option Timestamp) :=
  if cell = TimestampCell.sentinel then .ok none
  else do
    match ← readDate cell.date, ← readTime cell.time with
    | some date, some time => .ok (some ⟨date, time⟩)
    | _, _ => .error .impossibleTimestamp

/-- An integer datum of a parameter: wide, and unscaled for a decimal. -/
def readInteger (type : DeclaredType) (n : Int) : Value :=
  if type.isDecimal then .decimal (Decimal.fromUnscaled n type.scale)
  else .integer .int128 (IntegerKind.int128.wrap n)

/-- The value of a fixed-width datum that is not NULL. -/
def readFixed (type : DeclaredType) : (kind : FixedKind) → kind.Cell → Value
  | .bool, cell => .bool (cell.val ≠ 0)
  | .integer .size, cell => .integer .size cell
  | .integer _, cell => readInteger type cell.val
  | .float, cell => .float cell
  | .double, cell => .double cell

/-- The value of an optional content. -/
def orNull {α : Type} (value : α → Value) : Option α → Value
  | some content => value content
  | none => .null

/-- The value of a bound datum, which has to be one of the parameter's native type. -/
def read (type : DeclaredType) (datum : NativeDatum) : Except Failure Value :=
  match type.storage, datum with
  | .fixed expected, .fixed kind cell =>
      if kind ≠ expected then .error .noData
      else if kind.isSentinel cell then .ok .null
      else .ok (readFixed type kind cell)
  | .str, .text text =>
      .ok (if text = NativeDatum.nullText then .null else .str text.toString)
  | .blob, .blob (.missing _) => .ok .null
  | .blob, .blob (.bytes content) => .ok (.blob content)
  | .date, .date cell => do return orNull .date (← readDate cell)
  | .time, .time cell => do return orNull .time (← readTime cell)
  | .timestamp, .timestamp cell => do return orNull .timestamp (← readTimestamp cell)
  | _, _ => .error .noData

/-- Bind a datum to the parameter with an index. -/
def bind (stored : StoredStatement) (datum : Option NativeDatum) (index : Nat) :
    Except Failure StoredStatement :=
  match stored.parameters[index]?, datum with
  | none, _ => .error (.noSuchParameter index stored.parameters.length)
  | some _, none => .error .noData
  | some type, some datum => do
      let value ← read type datum
      return { stored with bound := stored.bound.set index (some value) }

/-- The bound values in order; the first parameter without one is reported. -/
def values (stored : StoredStatement) : Except Failure (List Value) :=
  stored.bound.zipIdx.mapM fun entry =>
    match entry.1 with
    | some value => .ok value
    | none => .error (.unboundParameter entry.2)

/-- The type tags of the parameters. -/
def tags (layout : TagLayout) (parameters : List DeclaredType) : Except Failure (List Int32) :=
  parameters.mapM (OutputColumn.tag layout)

end StoredStatement

/-- What preparing a statement makes. -/
structure Preparation where
  stored : StoredStatement
  tags : List Int32
  description : NativeResult

/-- Prepare a statement of the database with a handle. -/
def Database.prepare (database : Database) (handle : Handle .database)
    (statement : Statement) : Except Failure Preparation := do
  let parameters ← database.parameterTypes statement
  let (table, outputs) ← database.outputs statement
  let description ← description database.layout table outputs parameters
  let tags ← StoredStatement.tags database.layout parameters
  let bound := parameters.map fun _ => none
  return ⟨⟨handle, statement, parameters, bound⟩, tags, description⟩

end ColumnStore
