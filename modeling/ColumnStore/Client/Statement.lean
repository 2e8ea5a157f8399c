import ColumnStore.Client.Metadata
import ColumnStore.Client.Parameter
import ColumnStore.Client.ResultSet

/-!
# Prepared statements as callers hold them

A prepared statement knows the types of its parameters and keeps, for each of them, the
datum that was last handed to the engine, which has to stay where it is until another is
bound. Parameters are counted from one. A datum takes its slot before the engine is asked
to accept it.
-/

set_option autoImplicit false

namespace ColumnStore

/-- A prepared statement that is alive. -/
structure PreparedStatement (σ : Type) where
  connection : Connection σ
  handle : Handle .statement
  types : List ColumnType
  metadata : Metadata
  /-- The datum each parameter owns. -/
  slots : List (Option NativeDatum)

/-- Read a description. -/
def Api.metadata {σ : Type} (api : Api σ) (description : LiveResult) : Call σ Metadata := do
  settle (Metadata.ofColumns (← api.columns description))

namespace PreparedStatement

variable {σ : Type}

/-! ## Preparing -/

/-- The type tags a statement shows, if it shows any. -/
def shownTags (statement : LiveStatement) : List Int32 :=
  match statement.tags with
  | some tags => tags.take statement.parameterCount.toNat
  | none => []

/-- The types of tags, unless one names none. -/
def typesOfTags (layout : TagLayout) (tags : List Int32) : Except Error (List ColumnType) :=
  tags.zipIdx.mapM fun entry => do
    match ← layout.decode? entry.1 with
    | some type => .ok type
    | none => .error (.unsupportedType entry.2 entry.1)

/-- Read and release a description. A failure to release it outweighs one to read it. Nobody
owns the description in the meantime: if the program stops, it is not released. -/
def describe (connection : Connection σ) (description : LiveResult) :
    Call σ Metadata := fun state =>
  match connection.api.metadata description state with
  | (.error .overflow, state) => (.error .overflow, state)
  | (metadata, state) =>
      match connection.api.cleanupResult connection.handle description.handle state with
      | (.ok (), state) => (metadata, state)
      | (.error error, state) => (.error error, state)

/-- Release a statement. -/
def release (statement : PreparedStatement σ) : Call σ Unit :=
  statement.connection.api.cleanupStatement statement.connection.handle statement.handle

/-- Take over a statement and its description, or release the statement. A description is
not looked at when a parameter's type is not known. -/
def ofPrepared (connection : Connection σ) (live : LiveStatement)
    (description : Option LiveResult) : Call σ (PreparedStatement σ) :=
  let reading : Call σ (PreparedStatement σ) := do
    let types ← Api.settle (typesOfTags connection.api.layout (shownTags live))
    let metadata ←
      match description with
      | some description => describe connection description
      | none => pure Metadata.empty
    return ⟨connection, live.handle, types, metadata, types.map fun _ => none⟩
  tryCatch reading
    (Api.abandon (connection.api.cleanupStatement connection.handle live.handle))

/-! ## Binding -/

/-- An action that may also change the statement it is called on. -/
abbrev Update (σ : Type) :=
  PreparedStatement σ → StateM σ (Except Error Unit × PreparedStatement σ)

/-- The slot of a parameter. -/
def slot (statement : PreparedStatement σ) (index : Nat) : Except Error Nat :=
  let count := statement.types.length
  if index = 0 ∨ count < index then .error (.parameterIndex index count) else .ok (index - 1)

/-- The type of the parameter with a slot. -/
def typeAt (statement : PreparedStatement σ) (slot : Nat) : ColumnType :=
  statement.types[slot]?.getD .unknown

/-- The declared scale of the parameter with a slot. It is only known if every parameter
was described. -/
def scaleAt (statement : PreparedStatement σ) (slot : Nat) : Nat :=
  if statement.metadata.parameters.length = statement.types.length then
    (statement.metadata.parameters[slot]?.map (·.scale)).getD 0
  else 0

/-- Put a datum into a slot and hand it to the engine. -/
def install (slot : Nat) (datum : NativeDatum) : Update σ := fun statement state =>
  let kept := { statement with slots := statement.slots.set slot (some datum) }
  let (outcome, state) := statement.connection.api.bind statement.handle datum slot state
  ((outcome, kept), state)

/-- Bind what a slot is given, if anything is wrong leaving the statement as it is. -/
def bindWith (index : Nat) (datum : PreparedStatement σ → Nat → Call σ NativeDatum) :
    Update σ := fun statement state =>
  match statement.slot index with
  | .error error => ((.error error, statement), state)
  | .ok slot =>
      match datum statement slot state with
      | (.error error, state) => ((.error error, statement), state)
      | (.ok datum, state) => install slot datum statement state

/-- The datum reserved for NULL in a parameter's type. -/
def nullDatum (statement : PreparedStatement σ) (slot : Nat) : Call σ NativeDatum :=
  statement.connection.api.nullValue statement.connection.handle (statement.typeAt slot)

/-- Bind NULL to a parameter. -/
def bindNull (index : Nat) : Update σ :=
  bindWith index nullDatum

/-- Bind a value to a parameter, converted to its type. -/
def bind (index : Nat) (value : Value) : Update σ :=
  bindWith index fun statement slot =>
    if value.isNull then nullDatum statement slot
    else
      Api.settle (Parameter.toDatum (statement.typeAt slot) (statement.scaleAt slot) value)

/-- Bind a datum as it is to a parameter of a type. -/
def bindAs (type : ColumnType) (index : Nat) (datum : NativeDatum) : Update σ :=
  bindWith index fun statement slot =>
    let expected := statement.typeAt slot
    Api.settle (if expected = type then .ok datum else .error (.parameterType expected type))

/-- Bind octets to a blob parameter. -/
def bindBlob (index : Nat) (bytes : Bytes) : Update σ :=
  bindAs .blob index (.blob (.bytes bytes))

/-- Bind the components of a date, which only the engine checks. -/
def bindDate (index : Nat) (cell : DateCell) : Update σ :=
  bindAs .date index (.date cell)

/-- Bind the components of a time, which only the engine checks. -/
def bindTime (index : Nat) (cell : TimeCell) : Update σ :=
  bindAs .time index (.time cell)

/-- Bind the components of a timestamp, which only the engine checks. -/
def bindTimestamp (index : Nat) (cell : TimestampCell) : Update σ :=
  bindAs .timestamp index (.timestamp cell)

/-! ## Running -/

/-- Run a statement with the data bound to it. -/
def execute (statement : PreparedStatement σ) (options : QueryOptions) :
    Call σ (Outcome σ) := do
  let executed ← statement.connection.api.execute statement.handle
  Outcome.ofExecuted statement.connection executed options

/-! ## Showing -/

/-- Items between brackets. -/
def listText {α : Type} (item : α → String) (items : List α) : String :=
  "[" ++ ", ".intercalate (items.map item) ++ "]"

/-- How the type fields of a parameter or a column are shown. -/
def typeText (type : ColumnType) (sqlType : String) (digits scale : Nat) : String :=
  s!"ty: {type.label}, sql_type: {Quoted.encode sqlType}, digits: {digits}, scale: {scale}"

/-- How a parameter is shown. -/
def parameterText (info : ParameterInfo) : String :=
  s!"ParameterInfo \x7b {typeText info.type info.sqlType info.digits info.scale} \x7d"

/-- How a column is shown. -/
def outputText (info : OutputInfo) : String :=
  s!"OutputInfo \x7b name: {Quoted.encode info.name}, " ++
    s!"{typeText info.type info.sqlType info.digits info.scale} \x7d"

/-- How a statement is shown. -/
def description (statement : PreparedStatement σ) : String :=
  s!"Statement \x7b parameters: {listText ColumnType.label statement.types}, " ++
    s!"metadata: StatementMetadata \x7b parameters: " ++
    s!"{listText parameterText statement.metadata.parameters}, " ++
    s!"columns: {listText outputText statement.metadata.columns} \x7d \x7d"

end PreparedStatement

/-- Prepare a statement. -/
def Connection.prepare {σ : Type} (connection : Connection σ) (text : String) :
    Call σ (PreparedStatement σ) := do
  let text ← Api.settle (Connection.terminated text)
  let (live, description) ← connection.api.prepare connection.handle text
  PreparedStatement.ofPrepared connection live description

end ColumnStore
