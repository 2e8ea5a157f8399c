import ColumnStore.Native.Cell
import ColumnStore.Value

/-!
# Statement parameters

How a value becomes the native datum that is bound to a parameter. Integers have to fit
the parameter exactly; a decimal binds to an integer only if it stands for one. A
parameter with a scale takes decimals, integers and floating point numbers as unscaled
integers, dropping the places behind the scale. Otherwise a value binds to a parameter of
its own type, numbers with a fraction to either width, and a date to a timestamp, at
midnight.
-/

set_option autoImplicit false

namespace ColumnStore

namespace Parameter

/-- How a value without a type of its own is spelled in an error. -/
def spelling : Value → String
  | .decimal number => s!"decimal {number.text}"
  | value => value.text

/-- The error for a value that a parameter of a type does not take. -/
def mismatch (type : ColumnType) (value : Value) : Error :=
  match value.type? with
  | some actual => .parameterType type actual
  | none => .outOfRange (.parameter (spelling value) type)

/-- The number a value is written as; what is written without digits has none. -/
def toDecimal? : Value → Option Decimal
  | .decimal number => some number
  | .float number => Decimal.parse? number.text
  | .double number => Decimal.parse? number.text
  | value => value.toInt?.map Decimal.ofInt

/-- The integer that is bound for a value: its unscaled integer at a scale, or without a
scale the integer it stands for. -/
def toInteger? (scale : Nat) (value : Value) : Option Int :=
  if scale ≠ 0 then (toDecimal? value).bind fun number => (number.toUnscaled? scale).map (·.val)
  else
    match value with
    | .decimal number => number.toInteger?.map (·.val)
    | value => value.toInt?

/-- The datum for an integer parameter. -/
def toIntegerDatum (kind : IntegerKind) (scale : Nat) (value : Value) :
    Except Error NativeDatum :=
  let type := ColumnType.integer kind
  match toInteger? scale value with
  | none => .error (mismatch type value)
  | some wide =>
      match kind.ofInt? wide with
      | some number => .ok (.fixed (.integer kind) number)
      | none =>
          .error (.outOfRange (.parameter (String.ofList (Digits.ofInt wide)) type))

/-- The datum for a parameter of any type but the integers. -/
def toPlainDatum (type : ColumnType) (value : Value) : Except Error NativeDatum :=
  match type, value with
  | .bool, .bool truth =>
      .ok (.fixed .bool (if truth then ⟨1, by decide⟩ else IntegerKind.int8.zero))
  | .float, .float number => .ok (.fixed .float number)
  | .float, .double number => .ok (.fixed .float (number.convert .single))
  | .float, .decimal number =>
      let nearest : Binary64 := Binary.ofDecimal number
      .ok (.fixed .float (nearest.convert .single))
  | .double, .double number => .ok (.fixed .double number)
  | .double, .float number => .ok (.fixed .double (number.convert .double))
  | .double, .decimal number => .ok (.fixed .double (Binary.ofDecimal number))
  | .str, .str text =>
      match NativeText.ofString? text with
      | some text => .ok (.text text)
      | none => .error .interiorNul
  | .blob, .blob bytes => .ok (.blob (.bytes bytes))
  | .date, .date day => NativeDatum.date <$> day.toCell
  | .time, .time instant => .ok (.time instant.toCell)
  | .timestamp, .timestamp instant => NativeDatum.timestamp <$> instant.toCell
  | .timestamp, .date day => do
      let date ← day.toCell
      return .timestamp ⟨date, TimeCell.midnight⟩
  | type, value => .error (mismatch type value)

/-- The datum that is bound for a value to a parameter of a type; a scale other than zero
marks a decimal parameter. -/
def toDatum (type : ColumnType) (scale : Nat) (value : Value) : Except Error NativeDatum :=
  match type with
  | .integer kind => toIntegerDatum kind scale value
  | type => toPlainDatum type value

end Parameter

end ColumnStore
