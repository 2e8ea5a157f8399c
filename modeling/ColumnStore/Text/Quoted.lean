import ColumnStore.Text.CharacterClass

/-!
# Quoted texts

A text shown between double quotes, with escapes for the quote, the backslash, the
common controls, and, by code point, for every character that has no visible form of
its own.
-/

set_option autoImplicit false

namespace ColumnStore.Quoted

/-- The hexadecimal digits of a code point, without leading zeros. -/
def codePoint (c : Char) : List Char :=
  Nat.toDigits 16 c.toNat

/-- How a character is shown inside quotes. -/
def escape (c : Char) : List Char :=
  if c = '"' ∨ c = '\\' then ['\\', c]
  else if c = '\n' then ['\\', 'n']
  else if c = '\r' then ['\\', 'r']
  else if c = '\t' then ['\\', 't']
  else if c.toNat = 0 then ['\\', '0']
  else if CharacterClass.isHidden c || CharacterClass.isExtender c then
    '\\' :: 'u' :: '\x7b' :: codePoint c ++ ['\x7d']
  else [c]

/-- The text between double quotes. -/
def encode (text : String) : String :=
  String.ofList ('"' :: text.toList.flatMap escape ++ ['"'])

end ColumnStore.Quoted
