import ColumnStore.Text.Utf8

/-!
# NUL-terminated texts

Texts cross the function table as octets that end at the first zero octet. A
`NativeText` holds the octets in front of the terminator, so it cannot contain a zero,
and it may be invalid UTF-8; reading it as a `String` replaces what is invalid.
-/

set_option autoImplicit false

namespace ColumnStore

/-- The octets of a NUL-terminated text. -/
structure NativeText where
  bytes : Bytes
  no_nul : 0 ∉ bytes
  deriving DecidableEq

namespace NativeText

/-- The empty text. -/
def empty : NativeText :=
  ⟨[], by simp⟩

/-- The octets in front of the first zero. -/
def ofBytes (bytes : Bytes) : NativeText :=
  ⟨bytes.takeWhile (· ≠ 0), fun member => by
    have := List.all_eq_true.mp List.all_takeWhile 0 member
    simp at this⟩

/-- The octets as a terminated text, unless one of them is zero. -/
def ofBytes? (bytes : Bytes) : Option NativeText :=
  if no_nul : 0 ∉ bytes then some ⟨bytes, no_nul⟩ else none

/-- A string as a terminated text, unless it contains a NUL. -/
def ofString? (text : String) : Option NativeText :=
  ofBytes? (Utf8.ofString text)

/-- Where the first NUL of a string stands, counted in octets. -/
def nulPosition (text : String) : Nat :=
  (Utf8.ofString text).idxOf 0

/-- A string as a terminated text, with each NUL replaced by a space. -/
def blankingNul (text : String) : NativeText :=
  ⟨(Utf8.ofString text).map fun octet => if octet = 0 then 32 else octet, by
    simp only [List.mem_map, not_exists, not_and]
    intro octet _
    split <;> simp_all⟩

/-- A string as a terminated text, empty when it contains a NUL. -/
def ofStringOrEmpty (text : String) : NativeText :=
  (ofString? text).getD empty

/-- The text a reader sees. -/
def toString (text : NativeText) : String :=
  Utf8.decode text.bytes

end NativeText

end ColumnStore
