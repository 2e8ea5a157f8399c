import ColumnStore.Client.Api
import ColumnStore.Client.Options

/-!
# Connections

An open database as callers hold it. Opening applies the settings; a database whose
settings cannot be applied is closed again.
-/

set_option autoImplicit false

namespace ColumnStore

/-- An open database. -/
structure Connection (σ : Type) where
  api : Api σ
  handle : Handle .database

namespace Connection

variable {σ : Type}

/-- A text to hand over must not contain a NUL. -/
def terminated (text : String) : Except Error NativeText :=
  match NativeText.ofString? text with
  | some text => .ok text
  | none => .error .interiorNul

/-- An optional text to hand over. -/
def terminated? : Option String → Except Error (Option NativeText)
  | some text => some <$> terminated text
  | none => .ok none

/-- Close a database, reporting a failure. -/
def close (connection : Connection σ) : Call σ Unit :=
  connection.api.closeDatabase connection.handle

/-- The text of the latest failure of a database. -/
def lastError (connection : Connection σ) : StateM σ (Option String) :=
  connection.api.lastError connection.handle

/-- Whether every statement is its own transaction. -/
def autocommit (connection : Connection σ) : Call σ Bool :=
  connection.api.autocommit connection.handle

/-- Make every statement its own transaction, or not. -/
def setAutocommit (connection : Connection σ) (enabled : Bool) : Call σ Unit :=
  connection.api.setAutocommit connection.handle enabled

/-- Apply the settings that are applied after opening. -/
def applySettings (connection : Connection σ) (options : Options) : Call σ (Connection σ) :=
  if options.autocommit then pure connection
  else
    tryCatch (do connection.setAutocommit false; return connection)
      (Api.abandon connection.close)

/-- Open the database at an address; without one it is kept in main memory alone. -/
def openDatabase (api : Api σ) (address : Option String) (options : Options) :
    Call σ (Connection σ) := do
  let address ← Api.settle (terminated? address)
  let native ← Api.settle options.toNative
  let handle ← api.openDatabase address (some native)
  applySettings ⟨api, handle⟩ options

/-- Load a library and open a database with it. -/
def load (library : Except Error (NativeLibrary σ)) (address : Option String)
    (options : Options) : Call σ (Connection σ) := do
  let library ← Api.settle library
  openDatabase (Api.ofLibrary library options.layout) address options

/-- How a connection is shown. -/
def description (connection : Connection σ) : String :=
  s!"Database \x7b layout: {connection.api.layout.description}, .. \x7d"

end Connection

end ColumnStore
