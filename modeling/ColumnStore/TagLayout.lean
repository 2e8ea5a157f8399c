import ColumnStore.Error

/-!
# Numbering of native type tags

A library built with 128-bit integers numbers its type tags by the type codes. One
built without them has no tag for that type, so every later tag is one lower than the
code. All going between tags and codes happens here. Tags come from the library
unchecked and have 32 bits, but additions are checked: the greatest tag has no next one,
and asking for its code stops the program.
-/

set_option autoImplicit false

namespace ColumnStore

/-- How the loaded library numbers its tags. -/
structure TagLayout where
  hasInt128 : Bool
  deriving DecidableEq, Repr

namespace TagLayout

/-- The last tag that both numberings share. -/
def lastSharedTag : Int32 :=
  (ColumnType.integer .int64).code

/-- Libraries are taken to have 128-bit integers unless told otherwise. -/
def default : TagLayout :=
  ⟨true⟩

/-- The tag behind a tag, if there is one. -/
def next (tag : Int32) : Except Error Int32 :=
  if tag = Int32.maxValue then .error .overflow else .ok (tag + 1)

/-- The code a native tag stands for. -/
def toManaged (layout : TagLayout) (tag : Int32) : Except Error Int32 :=
  if !layout.hasInt128 && lastSharedTag < tag then next tag else .ok tag

/-- The native tag of a code. -/
def toNative (layout : TagLayout) (code : Int32) : Except Error Int32 :=
  if layout.hasInt128 || code ≤ lastSharedTag then .ok code
  else if code = (ColumnType.integer .int128).code then .error .int128Unavailable
  else .ok (code - 1)

/-- The type a native tag names, if it names one. -/
def decode? (layout : TagLayout) (tag : Int32) : Except Error (Option ColumnType) :=
  if tag < 0 then .ok none else ColumnType.ofCode? <$> layout.toManaged tag

/-- The native tag of a type. -/
def encode (layout : TagLayout) (type : ColumnType) : Except Error Int32 :=
  layout.toNative type.code

/-- How a layout is shown. -/
def description (layout : TagLayout) : String :=
  s!"NativeLayout \x7b has_int128: {layout.hasInt128} \x7d"

end TagLayout

end ColumnStore
