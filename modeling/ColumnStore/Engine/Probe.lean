import ColumnStore.Engine.EntryPoints

/-!
# Probes of the entry points

Single calls of the engine's entry points with an argument left out or out of range. They
run against a small fixture: an open database with one table, a result and a prepared
statement, all of which are released afterwards.
-/

set_option autoImplicit false

namespace ColumnStore

/-- What a probed entry point answers. -/
inductive ProbeAnswer
  | code (code : Int32)
  | text (text : Option NativeText)
  | datum (answer : Except Error (Option NativeDatum))

/-- The objects probes are made with. -/
structure Fixture where
  layout : TagLayout
  database : Option (Handle .database)
  result : Option (Handle .result)
  statement : Option (Handle .statement)

namespace Fixture

/-- A text handed to the engine. -/
def sql (text : String) : Option NativeText :=
  some (NativeText.ofStringOrEmpty text)

/-- The query of the fixture's result. -/
def selection : String :=
  "SELECT * FROM t"

/-- Make the objects. -/
def make (layout : TagLayout) : StateM Engine Fixture := do
  let (_, database) ← Engine.openDatabase layout true none none
  let _ ← Engine.query database (sql "CREATE TABLE t (a INT, b VARCHAR(3))") false
  let _ ← Engine.query database (sql "INSERT INTO t VALUES (1, 'x')") false
  let queried ← Engine.query database (sql selection) true
  let prepared ← Engine.prepare database (sql "SELECT a FROM t WHERE a = ?") true false
  return ⟨layout, database, queried.toOption.bind fun executed => executed.result.map (·.handle),
    prepared.toOption.bind fun prepared => prepared.statement.map (·.handle)⟩

/-- Release the objects. -/
def release (fixture : Fixture) : StateM Engine Unit := do
  let _ ← Engine.cleanupStatement fixture.database fixture.statement
  let _ ← Engine.cleanupResult fixture.database fixture.result
  let _ ← Engine.closeDatabase fixture.database

end Fixture

/-- A probe: a call made with the objects of a fixture. -/
abbrev Probe := Fixture → StateM Engine ProbeAnswer

namespace Probe

/-- A call that answers a text when it fails. -/
def reply {α : Type} (call : Fixture → StateM Engine (Reply α)) : Probe := fun fixture => do
  match ← call fixture with
  | .ok _ => return .text none
  | .error text => return .text (some text)

/-- A call for the datum reserved for NULL in the type with a tag. -/
def nullOf (tag : TagLayout → Int32) : Probe := fun fixture => do
  return .datum (← Engine.nullValue fixture.database (tag fixture.layout))

/-- The tag of the type that is no type. -/
def unknownTag (layout : TagLayout) : Int32 :=
  (layout.encode .unknown).toOption.getD 0

/-- An integer to bind. -/
def anInteger : Option NativeDatum :=
  some (.fixed (.integer .int32) ⟨1, by decide⟩)

/-- Every probe, by name. -/
def all : List (String × Probe) :=
  [("error", fun _ => do return .text (← Engine.lastError none)),
   ("close", fun _ => do return .code (← Engine.closeDatabase none)),
   ("get_autocommit", reply fun _ => Engine.getAutocommit none true),
   ("set_autocommit", reply fun _ => Engine.setAutocommit none 1),
   ("query", reply fun _ => Engine.query none (Fixture.sql Fixture.selection) true),
   ("cleanup_result", reply fun fixture => Engine.cleanupResult none fixture.result),
   ("prepare", reply fun _ => Engine.prepare none (Fixture.sql Fixture.selection) true true),
   ("cleanup_statement", reply fun fixture => Engine.cleanupStatement none fixture.statement),
   ("null", fun _ => do return .datum (← Engine.nullValue none 0)),
   ("open", fun fixture => do
      return .code (← Engine.openDatabase fixture.layout false none none).1),
   ("no_error", fun fixture => do return .text (← Engine.lastError fixture.database)),
   ("get_autocommit_result", reply fun fixture => Engine.getAutocommit fixture.database false),
   ("query_text", reply fun fixture => Engine.query fixture.database none true),
   ("query_no_out", reply fun fixture =>
      Engine.query fixture.database (Fixture.sql Fixture.selection) false),
   ("query_utf8", reply fun fixture =>
      Engine.query fixture.database
        (some (NativeText.ofBytes (Utf8.ofString "SELECT " ++ 255 :: Utf8.ofString " FROM t")))
        true),
   ("result_fetch", reply fun _ => Engine.resultFetch none true 0),
   ("result_fetch_res", reply fun fixture => Engine.resultFetch fixture.result false 0),
   ("result_fetch_index", reply fun fixture => Engine.resultFetch fixture.result true 2),
   ("cleanup_result_result", reply fun fixture => Engine.cleanupResult fixture.database none),
   ("prepare_stmt", reply fun fixture =>
      Engine.prepare fixture.database (Fixture.sql Fixture.selection) false true),
   ("prepare_text", reply fun fixture => Engine.prepare fixture.database none true true),
   ("bind", reply fun _ => Engine.bind none anInteger 0),
   ("bind_data", reply fun fixture => Engine.bind fixture.statement none 0),
   ("bind_index", reply fun fixture => Engine.bind fixture.statement anInteger 1),
   ("execute", reply fun _ => Engine.execute none true),
   ("execute_unbound", reply fun fixture => Engine.execute fixture.statement true),
   ("cleanup_statement_stmt", reply fun fixture =>
      Engine.cleanupStatement fixture.database none),
   ("null_tag", nullOf fun _ => 99),
   ("null_negative", nullOf fun _ => -1),
   ("null_unknown", nullOf unknownTag)]

/-- The probe with a name. -/
def ofName? (name : String) : Option Probe :=
  all.lookup name

/-- Run a probe against a fixture made for it. -/
def run (probe : Probe) (layout : TagLayout) : StateM Engine ProbeAnswer := do
  let fixture ← Fixture.make layout
  let answer ← probe fixture
  fixture.release
  return answer

end Probe

end ColumnStore
