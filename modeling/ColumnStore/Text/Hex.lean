/-!
# Bytes and their hexadecimal spelling

Byte strings are lists of octets. Each byte is spelled by two lower case
hexadecimal digits, high half first; reading also takes upper case digits.
-/

set_option autoImplicit false

namespace ColumnStore

/-- A string of octets. -/
abbrev Bytes := List UInt8

namespace Hex

/-- The lower case digit of a number below sixteen. -/
def digit (n : Nat) : Char :=
  if n < 10 then Char.ofNat (48 + n) else Char.ofNat (87 + n)

/-- The number a hexadecimal digit stands for, in either letter case. -/
def digitValue? (c : Char) : Option Nat :=
  if '0' ≤ c ∧ c ≤ '9' then some (c.toNat - 48)
  else if 'a' ≤ c ∧ c ≤ 'f' then some (c.toNat - 87)
  else if 'A' ≤ c ∧ c ≤ 'F' then some (c.toNat - 55)
  else none

/-- The number that hexadecimal digits stand for; there has to be one at least. -/
def toNat? (digits : List Char) : Option Nat :=
  if digits.isEmpty then none
  else digits.foldlM (fun n c => (digitValue? c).map fun value => 16 * n + value) 0

/-- The digits of a byte string, two for each byte. -/
def digits : Bytes → List Char
  | [] => []
  | byte :: rest => digit (byte.toNat / 16) :: digit (byte.toNat % 16) :: digits rest

/-- The hexadecimal spelling of a byte string. -/
def encode (bytes : Bytes) : String :=
  String.ofList (digits bytes)

/-- Read pairs of hexadecimal digits; a lone or foreign character fails. -/
def ofDigits? : List Char → Option Bytes
  | [] => some []
  | [_] => none
  | high :: low :: rest => do
      let h ← digitValue? high
      let l ← digitValue? low
      let bytes ← ofDigits? rest
      return UInt8.ofNat (16 * h + l) :: bytes

/-- Read a hexadecimal spelling. -/
def decode? (text : String) : Option Bytes :=
  ofDigits? text.toList

end Hex

/-- The first `width` octets of a number, least significant first. -/
def littleEndian : Nat → Nat → Bytes
  | 0, _ => []
  | width + 1, n => UInt8.ofNat n :: littleEndian width (n / 256)

@[simp] theorem length_littleEndian (width n : Nat) : (littleEndian width n).length = width := by
  induction width generalizing n with
  | zero => rfl
  | succ width ih => simp [littleEndian, ih]

end ColumnStore
