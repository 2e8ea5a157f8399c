import ColumnStore.Error
import ColumnStore.Native.FunctionTable
import ColumnStore.Text.Quoted

/-!
# Loading a library

A library is loaded from a file, and its entry points are looked up by their symbols. It is
of use only if it exports every one of them.
-/

set_option autoImplicit false

namespace ColumnStore

/-- A file that the loader accepts: the symbols it exports, and what the entry points
among them do. -/
structure LibraryImage (σ : Type) where
  symbols : List String
  table : FunctionTable σ

/-- A loaded library. -/
structure NativeLibrary (σ : Type) where
  path : String
  table : FunctionTable σ

namespace NativeLibrary

/-- The path the environment names, or else the file name that is searched for. -/
def pathOfEnvironment (named : Option String) : String :=
  named.getD "libmonetdbe.so"

/-- Load the library at a path, where the loader finds an image or none. -/
def load {σ : Type} (path : String) (image : Option (LibraryImage σ)) :
    Except Error (NativeLibrary σ) :=
  match image with
  | none => .error (.library path)
  | some image =>
      if EntryPoint.all.all fun entry => image.symbols.contains entry.symbol then
        .ok ⟨path, image.table⟩
      else .error (.library path)

/-- How a path is shown inside a description. -/
def description (path : String) : String :=
  s!"NativeLibrary \x7b path: {Quoted.encode path}, .. \x7d"

end NativeLibrary

end ColumnStore
