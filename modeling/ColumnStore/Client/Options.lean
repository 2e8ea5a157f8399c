import ColumnStore.Error
import ColumnStore.Native.Options
import ColumnStore.TagLayout

/-!
# Opening options

The settings a caller opens a database with, and their native form. A timeout is a length of
time in whole milliseconds and nanoseconds beyond them; texts that settings are read from give
milliseconds alone. The library takes the query timeout in whole seconds and the session timeout
in whole milliseconds, so what is left of either is dropped.
-/

set_option autoImplicit false

namespace ColumnStore

/-- Settings applied when a database is opened. -/
structure Options where
  /-- In megabytes; zero is no limit. -/
  memoryLimit : Nat
  /-- In whole milliseconds. -/
  queryTimeout : Nat
  /-- In whole milliseconds. -/
  sessionTimeout : Nat
  /-- Zero leaves the number of threads to the engine. -/
  threads : Nat
  /-- The octets of a path, which need not be a text. -/
  traceFile : Option Bytes
  autocommit : Bool
  /-- Whether the library was built with 128-bit integers. -/
  int128 : Bool
  /-- The nanoseconds of the query timeout beyond its milliseconds. -/
  queryNanoseconds : Fin 1000000 := 0
  /-- The nanoseconds of the session timeout beyond its milliseconds. -/
  sessionNanoseconds : Fin 1000000 := 0
  deriving DecidableEq, Repr

namespace Options

/-- The settings of a caller who asks for nothing. -/
def default : Options where
  memoryLimit := 0
  queryTimeout := 0
  sessionTimeout := 0
  threads := 0
  traceFile := none
  autocommit := true
  int128 := true

/-- The query timeout in nanoseconds; zero is none. -/
def queryDuration (options : Options) : Nat :=
  1000000 * options.queryTimeout + options.queryNanoseconds

/-- The session timeout in nanoseconds; zero is none. -/
def sessionDuration (options : Options) : Nat :=
  1000000 * options.sessionTimeout + options.sessionNanoseconds

/-- The numbering of type tags the settings select. -/
def layout (options : Options) : TagLayout :=
  ⟨options.int128⟩

/-- A limit as a 32-bit integer. -/
def limit (option : String) (value : Nat) : Except Error IntegerKind.int32.Number :=
  match IntegerKind.int32.ofInt? value with
  | some number => .ok number
  | none => .error (.outOfRange (.limit option value))

/-- A trace file as a terminated text. -/
def nativeTraceFile : Option Bytes → Except Error (Option NativeText)
  | none => .ok none
  | some path =>
      match NativeText.ofBytes? path with
      | some text => .ok (some text)
      | none => .error .interiorNul

/-- The native form of the settings. The trace file is looked at first, then the limits in
order; nothing remote is ever asked for. -/
def toNative (options : Options) : Except Error NativeOptions := do
  let traceFile ← nativeTraceFile options.traceFile
  let memoryLimit ← limit "memory_limit" options.memoryLimit
  let queryTimeout ← limit "query_timeout" (options.queryDuration / 1000000000)
  let sessionTimeout ← limit "session_timeout" (options.sessionDuration / 1000000)
  let threads ← limit "threads" options.threads
  return ⟨memoryLimit, queryTimeout, sessionTimeout, threads, false, false, traceFile⟩

end Options

end ColumnStore
