import ColumnStore.Text.CharacterTable

/-!
# Character classes

The classes that texts are read and written by: blanks, letters, numerals, and the
characters that have to be spelled out when a text is shown quoted. Letter case is
folded for ASCII letters alone.
-/

set_option autoImplicit false

namespace ColumnStore.CharacterClass

/-- Whether a code point lies in one of the runs of a table. -/
def inRun (edges : Array Nat) (c : Char) : Bool :=
  edges.countP (· ≤ c.toNat) % 2 = 1

/-- White space. -/
def isBlank (c : Char) : Bool :=
  let n := c.toNat
  (9 ≤ n && n ≤ 13) || n = 0x20 || n = 0x85 || n = 0xA0 || n = 0x1680 ||
    (0x2000 ≤ n && n ≤ 0x200A) || n = 0x2028 || n = 0x2029 || n = 0x202F || n = 0x205F ||
    n = 0x3000

/-- Letters of any script. -/
def isLetter (c : Char) : Bool :=
  if c.toNat < 128 then c.isAlpha else inRun CharacterTable.letterEdges c

/-- Numerals of any script. -/
def isNumeral (c : Char) : Bool :=
  if c.toNat < 128 then c.isDigit else inRun CharacterTable.numeralEdges c

/-- Characters without a visible form. -/
def isHidden (c : Char) : Bool :=
  if c.toNat < 128 then c.toNat < 32 || c.toNat = 127 else inRun CharacterTable.hiddenEdges c

/-- Characters that attach to the one before them. -/
def isExtender (c : Char) : Bool :=
  if c.toNat < 128 then false else inRun CharacterTable.extenderEdges c

/-- The lower case of an ASCII capital; every other character is kept. -/
def lower (c : Char) : Char :=
  if 'A' ≤ c ∧ c ≤ 'Z' then Char.ofNat (c.toNat + 32) else c

/-- A text with its ASCII capitals in lower case. -/
def lowerCase (text : String) : String :=
  String.ofList (text.toList.map lower)

/-- Whether two texts differ at most in the case of ASCII letters. -/
def sameIgnoringCase (left right : String) : Bool :=
  left.toList.map lower = right.toList.map lower

/-- A text without the blanks at its ends. -/
def trimBlanks (text : List Char) : List Char :=
  ((text.dropWhile isBlank).reverse.dropWhile isBlank).reverse

end ColumnStore.CharacterClass
