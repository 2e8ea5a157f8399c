import ColumnStore.Client.Connection

/-!
# Results as callers hold them

A statement either returns rows or changes some. A result with columns is kept until it is
closed, one without columns is released at once. A limit on the number of rows only hides
rows: all of them are fetched, and the NULLs of all of them are set to zero.
-/

set_option autoImplicit false

namespace ColumnStore

/-- Settings of a single query. -/
structure QueryOptions where
  /-- Whether counts of changed rows may exceed 32 bits. -/
  largeUpdate : Bool
  /-- The greatest number of rows to show; zero shows all. -/
  maxRows : Nat
  deriving DecidableEq, Repr

/-- How many rows a statement changed. -/
inductive UpdateCount
  | regular (count : IntegerKind.int32.Number)
  | large (count : Int)
  deriving DecidableEq

/-- A result that is alive. -/
structure ResultSet (σ : Type) where
  connection : Connection σ
  native : LiveResult
  maxRows : Nat
  fetched : Bool

/-- What a statement produced. -/
inductive Outcome (σ : Type)
  | rows (result : ResultSet σ)
  | updated (count : UpdateCount)

namespace ResultSet

variable {σ : Type}

/-- How many columns a result has. -/
def columnCount (result : ResultSet σ) : Nat :=
  result.native.header.columnCount

/-- How many rows the engine reports; a negative number is none. -/
def nativeRows (result : ResultSet σ) : Nat :=
  result.native.header.rowCount.toNat

/-- How many rows are shown. -/
def rowCount (result : ResultSet σ) : Nat :=
  if result.maxRows = 0 then result.nativeRows else min result.nativeRows result.maxRows

/-- The name the engine gave a result. -/
def name (result : ResultSet σ) : Option String :=
  result.native.header.name.map NativeText.toString

/-- Hide the rows behind the limit. -/
def limit (result : ResultSet σ) (columns : Columns) : Columns :=
  if 0 < result.maxRows ∧ result.maxRows < result.nativeRows then
    columns.truncate result.maxRows
  else columns

/-- Fetch and materialize every column. -/
def fetchAll (result : ResultSet σ) : Call σ Columns := do
  return result.limit (← result.connection.api.columns result.native)

/-- The result after it has been fetched. -/
def markFetched (result : ResultSet σ) : ResultSet σ :=
  { result with fetched := true }

/-- Release a result, reporting a failure. -/
def close (result : ResultSet σ) : Call σ Unit :=
  result.connection.api.cleanupResult result.connection.handle result.native.handle

/-- How a result is shown. -/
def description (result : ResultSet σ) : String :=
  s!"QueryResult \x7b columns: {result.columnCount}, rows: {result.rowCount}, " ++
    s!"fetched: {result.fetched} \x7d"

end ResultSet

namespace UpdateCount

/-- A number of changed rows, which has to fit 32 bits unless more are asked for. -/
def ofAffected (affected : Int) (options : QueryOptions) : Except Error UpdateCount :=
  if options.largeUpdate then .ok (.large affected)
  else
    match IntegerKind.int32.ofInt? affected with
    | some count => .ok (.regular count)
    | none => .error (.updateCountOverflow affected)

end UpdateCount

namespace Outcome

variable {σ : Type}

/-- Take over what a statement stored. -/
def ofExecuted (connection : Connection σ) (executed : Executed) (options : QueryOptions) :
    Call σ (Outcome σ) := do
  let updated : Call σ (Outcome σ) :=
    Api.settle (Outcome.updated <$> UpdateCount.ofAffected executed.affected options)
  match executed.result with
  | none => updated
  | some native =>
      let result : ResultSet σ := ⟨connection, native, options.maxRows, false⟩
      if 0 < result.columnCount then return .rows result
      result.close
      updated

end Outcome

/-- Run a statement. -/
def Connection.query {σ : Type} (connection : Connection σ) (text : String)
    (options : QueryOptions) : Call σ (Outcome σ) := do
  let text ← Api.settle (Connection.terminated text)
  let executed ← connection.api.query connection.handle text
  Outcome.ofExecuted connection executed options

end ColumnStore
