import ColumnStore.Number.IntegerKind
import ColumnStore.Text.NativeText

/-!
# Native opening options

The options record that is handed to the library when a database is opened. The numbers
have 32 bits; zero stands for no limit, or for the engine's default.
-/

set_option autoImplicit false

namespace ColumnStore

/-- Options of opening a database, as the library reads them. -/
structure NativeOptions where
  memoryLimit : IntegerKind.int32.Number
  queryTimeout : IntegerKind.int32.Number
  sessionTimeout : IntegerKind.int32.Number
  threads : IntegerKind.int32.Number
  /-- Whether a connection to a remote server is asked for. -/
  remote : Bool
  /-- Whether a listener for clients is asked for. -/
  listener : Bool
  traceFile : Option NativeText
  deriving DecidableEq

end ColumnStore
