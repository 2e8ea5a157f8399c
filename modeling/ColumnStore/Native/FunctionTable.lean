import ColumnStore.Native.Descriptor
import ColumnStore.Native.Handle
import ColumnStore.Native.Options

/-!
# The function table

The entry points through which a library is used. Each is an action on the state of the
library, whatever that state is: a function table is parametrised by its type `σ`. Most
entries answer a text when they fail, and nothing else they answer counts in that case;
two of them answer a code.

A result, a statement or a column is handed out together with what can be read of it
without another call. Of all this only the cells of columns ever change.
-/

set_option autoImplicit false

namespace ColumnStore

/-- What a result shows without being fetched. -/
structure ResultHeader where
  /-- The number of rows as reported; nothing keeps it from being negative. -/
  rowCount : Int
  /-- Zero for statements that only report a row count. -/
  columnCount : Nat
  name : Option NativeText
  /-- The key the last insert generated, or -1. -/
  lastId : Int
  deriving DecidableEq

/-- A result with its columns, as a library keeps it. -/
structure NativeResult where
  header : ResultHeader
  columns : List Descriptor

/-- A result that is handed out, with what it shows. -/
structure LiveResult where
  handle : Handle .result
  header : ResultHeader
  deriving DecidableEq

/-- A statement that is handed out, with what it shows. -/
structure LiveStatement where
  handle : Handle .statement
  /-- The number of parameters as reported. -/
  parameterCount : Int
  /-- A type tag for each parameter, unless the library shows none. -/
  tags : Option (List Int32)
  deriving DecidableEq

/-- A column of a result that is handed out, with its descriptor. -/
structure LiveColumn where
  result : Handle .result
  index : Nat
  descriptor : Descriptor

/-- What running a statement stores. -/
structure Executed where
  result : Option LiveResult
  affected : Int
  deriving DecidableEq

/-- What preparing a statement stores. -/
structure Prepared where
  statement : Option LiveStatement
  description : Option LiveResult
  deriving DecidableEq

/-- The answer of an entry that fails with a text. -/
abbrev Reply (α : Type) := Except NativeText α

/-- The entry points of a library over its state. -/
structure FunctionTable (σ : Type) where
  /-- Answers a code, zero for success, and the handle it stored, whatever the code. -/
  openDatabase : Option NativeText → Option NativeOptions →
    StateM σ (Int32 × Option (Handle .database))
  closeDatabase : Option (Handle .database) → StateM σ Int32
  lastError : Option (Handle .database) → StateM σ (Option NativeText)
  getAutocommit : Option (Handle .database) → StateM σ (Reply Int32)
  setAutocommit : Option (Handle .database) → Int32 → StateM σ (Reply Unit)
  query : Option (Handle .database) → Option NativeText → StateM σ (Reply Executed)
  resultFetch : Option (Handle .result) → Nat → StateM σ (Reply (Option LiveColumn))
  cleanupResult : Option (Handle .database) → Option (Handle .result) →
    StateM σ (Reply Unit)
  prepare : Option (Handle .database) → Option NativeText → StateM σ (Reply Prepared)
  bind : Option (Handle .statement) → Option NativeDatum → Nat → StateM σ (Reply Unit)
  execute : Option (Handle .statement) → StateM σ (Reply Executed)
  cleanupStatement : Option (Handle .database) → Option (Handle .statement) →
    StateM σ (Reply Unit)
  /-- Looking for the type with a tag may stop the program. -/
  nullValue : Option (Handle .database) → Int32 →
    StateM σ (Except Error (Option NativeDatum))
  /-- Not an entry: the caller writes the cells of a column it was handed. -/
  writeCells : LiveColumn → ColumnCells → StateM σ Unit

namespace FunctionTable

/-- An action on a part of a larger state. -/
def within {σ τ α : Type} (part : τ → σ) (replace : σ → τ → τ) (action : StateM σ α) :
    StateM τ α := fun state =>
  let (answer, changed) := action (part state)
  (answer, replace changed state)

/-- The same entry points over a larger state, of which they use a part. -/
def lift {σ τ : Type} (part : τ → σ) (replace : σ → τ → τ) (table : FunctionTable σ) :
    FunctionTable τ where
  openDatabase url options := within part replace (table.openDatabase url options)
  closeDatabase database := within part replace (table.closeDatabase database)
  lastError database := within part replace (table.lastError database)
  getAutocommit database := within part replace (table.getAutocommit database)
  setAutocommit database value := within part replace (table.setAutocommit database value)
  query database text := within part replace (table.query database text)
  resultFetch result index := within part replace (table.resultFetch result index)
  cleanupResult database result := within part replace (table.cleanupResult database result)
  prepare database text := within part replace (table.prepare database text)
  bind statement datum index := within part replace (table.bind statement datum index)
  execute statement := within part replace (table.execute statement)
  cleanupStatement database statement :=
    within part replace (table.cleanupStatement database statement)
  nullValue database tag := within part replace (table.nullValue database tag)
  writeCells column cells := within part replace (table.writeCells column cells)

end FunctionTable

end ColumnStore
