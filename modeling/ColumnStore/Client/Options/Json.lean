import ColumnStore.Client.Options
import ColumnStore.Value.Json

/-!
# Options as JSON

Options are read from an object with any of the settings as members, or from an array of
settings in the order of the fields. A setting that is not given keeps its default. Members
of other names are ignored, a setting given twice is refused.
-/

set_option autoImplicit false

namespace ColumnStore.Options

/-- A setting and how it is read into the options. -/
structure Setting where
  name : String
  read : Json → Options → Option Options

/-- The greatest 32-bit number. -/
def greatestLimit : Int := 4294967295

/-- The octets of a text, or `null` for none. -/
def pathOfJson? : Json → Option (Option Bytes)
  | .null => some none
  | json => json.string?.map fun text => some (Utf8.ofString text)

/-- All settings, in the order of the fields. -/
def settings : List Setting :=
  [⟨"memory_limit", fun json options => do
      let n ← json.integerIn? 0 greatestLimit
      return { options with memoryLimit := n.toNat }⟩,
   ⟨"query_timeout", fun json options => do
      let n ← json.integerIn? 0 IntegerKind.size.maximum
      return { options with queryTimeout := n.toNat }⟩,
   ⟨"session_timeout", fun json options => do
      let n ← json.integerIn? 0 IntegerKind.size.maximum
      return { options with sessionTimeout := n.toNat }⟩,
   ⟨"threads", fun json options => do
      let n ← json.integerIn? 0 greatestLimit
      return { options with threads := n.toNat }⟩,
   ⟨"trace_file", fun json options => do
      let path ← pathOfJson? json
      return { options with traceFile := path }⟩,
   ⟨"autocommit", fun json options => do
      let enabled ← json.bool?
      return { options with autocommit := enabled }⟩,
   ⟨"int128", fun json options => do
      let present ← json.bool?
      return { options with int128 := present }⟩]

/-- Read settings one after the other from as many items. -/
def ofItems? : List Setting → List Json → Options → Option Options
  | _, [], options => some options
  | [], _ :: _, _ => none
  | setting :: settings, item :: items, options => do
      ofItems? settings items (← setting.read item options)

/-- Read members one after the other; each setting is taken off the list of those that may
still come. -/
def ofMembers? : List Setting → List (Option String × Json) → Options → Option Options
  | _, [], options => some options
  | pending, (name, json) :: members, options => do
      let name ← name
      match pending.find? (·.name = name) with
      | some setting =>
          ofMembers? (pending.filter (·.name ≠ name)) members (← setting.read json options)
      | none =>
          if settings.any (·.name = name) then none else ofMembers? pending members options

/-- Read options from JSON. -/
def ofJson? : Json → Option Options
  | .object members => ofMembers? settings members default
  | .array items => ofItems? settings items default
  | _ => none

/-- Read options from a JSON text. -/
def parseJson? (text : String) : Option Options := do
  let json ← Json.parse? text
  ofJson? json

end ColumnStore.Options
