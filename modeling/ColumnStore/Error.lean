import ColumnStore.ColumnType

/-!
# Errors of the client

What can go wrong between a caller and the engine. An error of the engine itself is
passed on with its text unchanged, together with the entry point that reported it; the
other causes are found on this side of the function table. `Error.message` is the one
place where causes become text.

One cause is not reported to a caller: arithmetic is checked, and an overflow stops the
program. It is passed on like an error, but past whatever handles errors; on the way out
owners still release what they own.
-/

set_option autoImplicit false

namespace ColumnStore

/-- The entry points of the native library. -/
inductive EntryPoint
  | open | close | error | getAutocommit | setAutocommit | query | resultFetch
  | cleanupResult | prepare | bind | execute | cleanupStatement | null
  deriving DecidableEq, Repr

namespace EntryPoint

/-- Every entry point, in the order in which a library is searched for them. -/
def all : List EntryPoint :=
  [.open, .close, .error, .getAutocommit, .setAutocommit, .query, .resultFetch,
    .cleanupResult, .prepare, .bind, .execute, .cleanupStatement, .null]

/-- The symbol a library exports for an entry point. -/
def symbol : EntryPoint → String
  | .open => "monetdbe_open"
  | .close => "monetdbe_close"
  | .error => "monetdbe_error"
  | .getAutocommit => "monetdbe_get_autocommit"
  | .setAutocommit => "monetdbe_set_autocommit"
  | .query => "monetdbe_query"
  | .resultFetch => "monetdbe_result_fetch"
  | .cleanupResult => "monetdbe_cleanup_result"
  | .prepare => "monetdbe_prepare"
  | .bind => "monetdbe_bind"
  | .execute => "monetdbe_execute"
  | .cleanupStatement => "monetdbe_cleanup_statement"
  | .null => "monetdbe_null"

end EntryPoint

/-- What does not fit its native representation. -/
inductive Unfit
  /-- The year of a date. -/
  | year (year : Int)
  /-- An opening option, named as callers write it. -/
  | limit (option : String) (value : Nat)
  /-- A value, spelled out, for a parameter of a type. -/
  | parameter (spelling : String) (type : ColumnType)
  deriving DecidableEq, Repr

/-- Why an operation failed. -/
inductive Error
  /-- An entry point reported a failure with this text. -/
  | native (entry : EntryPoint) (text : String)
  /-- No library with every entry point could be loaded from a path. -/
  | library (path : String)
  /-- A column, or a parameter counted from zero, has a type tag that names no type. -/
  | unsupportedType (column : Nat) (tag : Int32)
  /-- The library was built without 128-bit integers. -/
  | int128Unavailable
  /-- No parameter has this number, counted from one. -/
  | parameterIndex (index count : Nat)
  /-- A value of one type was given for a parameter of another. -/
  | parameterType (expected actual : ColumnType)
  /-- A column holds no decimals. -/
  | notDecimal (actual : ColumnType)
  /-- A text contains a NUL and cannot be handed over. -/
  | interiorNul
  /-- More rows were affected than a 32-bit count can hold. -/
  | updateCountOverflow (affected : Int)
  | outOfRange (subject : Unfit)
  | columnNotFound (name : String)
  | columnIndexNotFound (index : Nat)
  | rowOutOfBounds (row rows : Nat)
  /-- A sum does not have 32 bits, and the program stopped. -/
  | overflow
  deriving DecidableEq, Repr

/-- The subject of an out-of-range error. -/
def Unfit.description : Unfit → String
  | .year n => s!"year {n}"
  | .limit option value => s!"{option} {value}"
  | .parameter spelling type => s!"{spelling} as a {type.name} parameter"

namespace Error

/-- The text of an error. -/
def message : Error → String
  | native _ text => text
  | library path => s!"failed to load monetdbe library '{path}'"
  | unsupportedType column tag =>
      s!"column {column} has unsupported native type tag {tag.toInt}"
  | int128Unavailable => "the loaded monetdbe library has no 128-bit integer support"
  | parameterIndex index count =>
      s!"parameter index {index} is out of range, statement has {count} parameter(s)"
  | parameterType expected actual =>
      s!"cannot bind a {actual.name} value to a parameter of type {expected.name}"
  | notDecimal actual => s!"a {actual.name} column cannot be read as decimal"
  | interiorNul => "string contains an interior NUL byte"
  | updateCountOverflow affected =>
      s!"affected row count {affected} does not fit a 32-bit update count"
  | outOfRange subject =>
      s!"{subject.description} is out of range for its native representation"
  | columnNotFound name => s!"no column named '{name}'"
  | columnIndexNotFound index => s!"no column named '#{index}'"
  | rowOutOfBounds row rows => s!"row {row} is out of bounds, column has {rows} row(s)"
  | overflow => "attempt to add with overflow"

/-- Whether the engine reported the error. -/
def isNative : Error → Bool
  | native .. => true
  | _ => false

end Error

end ColumnStore
