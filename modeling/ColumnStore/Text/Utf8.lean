import ColumnStore.Text.Hex

/-!
# UTF-8 with replacement of invalid bytes

`encode` writes characters as octets. `decode` reads any octets: a maximal piece that
cannot be continued to a character is replaced by one replacement character, and
reading goes on with the octet that broke it. `lead?` says which octets may follow
a leading octet. Positions in a text are counted in octets, and a part of a text
begins and ends between characters (`slice?`).
-/

set_option autoImplicit false

namespace ColumnStore.Utf8

/-- The octets of a text. -/
def encode (text : List Char) : Bytes :=
  text.flatMap String.utf8EncodeChar

/-- The octets of a string. -/
def ofString (text : String) : Bytes :=
  encode text.toList

/-- How many octets a text has. -/
def size : List Char → Nat
  | [] => 0
  | c :: text => c.utf8Size + size text

/-- Cut a text behind so many octets, unless that is inside a character or past the end. -/
def cutAt? : Nat → List Char → Option (List Char × List Char)
  | 0, text => some ([], text)
  | _ + 1, [] => none
  | octets + 1, c :: rest =>
      if c.utf8Size ≤ octets + 1 then do
        let (front, back) ← cutAt? (octets + 1 - c.utf8Size) rest
        return (c :: front, back)
      else none

/-- The part of a text between two positions, which are counted in octets. -/
def slice? (start stop : Nat) (text : List Char) : Option (List Char) := do
  let (_, behind) ← cutAt? start text
  let (part, _) ← cutAt? (stop - start) behind
  return part

/-- The character that stands for invalid octets. -/
def replacement : Char :=
  '\uFFFD'

/-- What a leading octet of a longer sequence announces: its own payload bits, the
range of the second octet, and how many octets follow in all. -/
structure Lead where
  payload : Nat
  secondLeast : Nat
  secondGreatest : Nat
  following : Nat

/-- The announcement of an octet that can start a longer sequence. -/
def lead? (octet : Nat) : Option Lead :=
  if octet < 0xC2 then none
  else if octet < 0xE0 then some ⟨octet - 0xC0, 0x80, 0xBF, 1⟩
  else if octet = 0xE0 then some ⟨0, 0xA0, 0xBF, 2⟩
  else if octet = 0xED then some ⟨0xD, 0x80, 0x9F, 2⟩
  else if octet < 0xF0 then some ⟨octet - 0xE0, 0x80, 0xBF, 2⟩
  else if octet = 0xF0 then some ⟨0, 0x90, 0xBF, 3⟩
  else if octet < 0xF4 then some ⟨octet - 0xF0, 0x80, 0xBF, 3⟩
  else if octet = 0xF4 then some ⟨4, 0x80, 0x8F, 3⟩
  else none

/-- What has been read of the current character: nothing, or a payload with the range
of the next octet and how many octets are still to come after it. -/
inductive Progress
  | start
  | partly (payload least greatest rest : Nat)

/-- Read one octet where a character can start. -/
def begin (octet : UInt8) : List Char × Progress :=
  if octet.toNat < 0x80 then ([Char.ofNat octet.toNat], .start)
  else
    match lead? octet.toNat with
    | some lead =>
        ([], .partly lead.payload lead.secondLeast lead.secondGreatest (lead.following - 1))
    | none => ([replacement], .start)

/-- Read one octet: the characters it completes, and what is known after it. -/
def feed : Progress → UInt8 → List Char × Progress
  | .start, octet => begin octet
  | .partly payload least greatest rest, octet =>
      if least ≤ octet.toNat ∧ octet.toNat ≤ greatest then
        let payload := 64 * payload + octet.toNat % 64
        match rest with
        | 0 => ([Char.ofNat payload], .start)
        | rest + 1 => ([], .partly payload 0x80 0xBF rest)
      else
        let (characters, progress) := begin octet
        (replacement :: characters, progress)

/-- Read the octets that remain. -/
def run : Progress → Bytes → List Char
  | .start, [] => []
  | .partly .., [] => [replacement]
  | progress, octet :: rest =>
      let (characters, next) := feed progress octet
      characters ++ run next rest

/-- The text of a string of octets. -/
def decode (bytes : Bytes) : String :=
  String.ofList (run .start bytes)

end ColumnStore.Utf8
