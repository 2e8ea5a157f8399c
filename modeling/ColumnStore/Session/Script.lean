import ColumnStore.Engine.EntryPoints

/-!
# Scripted libraries

A library that misbehaves on purpose: any of its entry points can be replaced by a fixed
answer, and the others work as the engine's do. The results and statements a script hands
out are set up once, so every call hands out the same ones. The engine knows
nothing of them: fetching, binding and releasing them is done here.
-/

set_option autoImplicit false

namespace ColumnStore

/-- The state of a library that may be scripted. -/
structure Backend where
  engine : Engine
  /-- Results that scripts hand out, by number. -/
  scripted : List NativeResult

/-- The fixed answers of a script. An entry without one is the engine's. The results a
script hands out are given as `ρ`: first as they are, then as they are handed out. -/
structure Script (ρ : Type) where
  /-- The code of opening, and whether a database is opened and handed out. -/
  openDatabase : Option (Int32 × Bool)
  /-- The code of closing, which releases nothing. -/
  closeDatabase : Option Int32
  lastError : Option (Option NativeText)
  getAutocommit : Option (Reply Int32)
  setAutocommit : Option (Reply Unit)
  /-- A result, and the number of rows that were affected. -/
  query : Option (Reply (Option ρ × Int))
  /-- Fetching hands out no column. -/
  resultFetch : Option (Reply Unit)
  cleanupResult : Option (Reply Unit)
  /-- A statement, and its description. -/
  prepare : Option (Reply (Option LiveStatement × Option ρ))
  bind : Option (Reply Unit)
  execute : Option (Reply (Option ρ × Int))
  cleanupStatement : Option (Reply Unit)
  /-- Whether there is no datum for NULL in any type. -/
  withoutNulls : Bool

namespace Backend

/-- Nothing has been handed out. -/
def empty : Backend :=
  ⟨Engine.empty, []⟩

/-- Place a result for scripts to hand out. -/
def place (result : NativeResult) : StateM Backend LiveResult := fun backend =>
  (⟨⟨.script, backend.scripted.length⟩, result.header⟩,
    { backend with scripted := backend.scripted ++ [result] })

/-- Place a result, if there is one. -/
def place? : Option NativeResult → StateM Backend (Option LiveResult)
  | some result => some <$> place result
  | none => pure none

/-- Put an engine into the state. -/
def withEngine (engine : Engine) (backend : Backend) : Backend :=
  { backend with engine }

/-- An action on the engine alone. -/
def onEngine {α : Type} (action : StateM Engine α) : StateM Backend α :=
  FunctionTable.within Backend.engine withEngine action

/-- The engine as a library over this state. -/
def engineTable (layout : TagLayout) : FunctionTable Backend :=
  (Engine.functionTable layout).lift Backend.engine withEngine

/-- Whether a handle stands for something a script handed out. -/
def isScripted {resource : Resource} (given : Option (Handle resource)) : Bool :=
  match given with
  | some handle => handle.keeper = .script
  | none => false

/-- The column of a scripted result. -/
def scriptedColumn? (backend : Backend) (result : Option (Handle .result)) (index : Nat) :
    Option LiveColumn := do
  let handle ← result
  let placed ← backend.scripted[handle.number]?
  let descriptor ← placed.columns[index]?
  return ⟨handle, index, descriptor⟩

/-- Write the cells of a column of a scripted result. -/
def writeScripted (column : LiveColumn) (cells : ColumnCells) : StateM Backend Unit :=
  fun backend =>
    ((), { backend with
      scripted := backend.scripted.modify column.result.number fun result =>
        { result with
          columns := result.columns.modify column.index fun descriptor =>
            { descriptor with cells } } })

end Backend

namespace Script

/-- No entry is replaced. -/
def nothing {ρ : Type} : Script ρ where
  openDatabase := none
  closeDatabase := none
  lastError := none
  getAutocommit := none
  setAutocommit := none
  query := none
  resultFetch := none
  cleanupResult := none
  prepare := none
  bind := none
  execute := none
  cleanupStatement := none
  withoutNulls := false

/-- The statement a script hands out. -/
def statement (parameterCount : Int) (tags : Option (List Int32)) : LiveStatement :=
  ⟨⟨.script, 0⟩, parameterCount, tags⟩

/-- Place what an answer hands out. -/
def placeAnswer {α β : Type} (place : α → StateM Backend β) :
    Option (Reply α) → StateM Backend (Option (Reply β))
  | some (.ok answer) => do return some (.ok (← place answer))
  | some (.error text) => pure (some (.error text))
  | none => pure none

/-- Place all results of a script, in the order of the entries that hand them out. -/
def place (script : Script NativeResult) : StateM Backend (Script LiveResult) := do
  let query ← placeAnswer (fun answer => do return (← Backend.place? answer.1, answer.2))
    script.query
  let prepare ← placeAnswer (fun answer => do return (answer.1, ← Backend.place? answer.2))
    script.prepare
  let execute ← placeAnswer (fun answer => do return (← Backend.place? answer.1, answer.2))
    script.execute
  return { script with query, prepare, execute }

/-- The fixed answer if there is one, else the call. -/
def answerOr {α : Type} (answer : Option α) (call : StateM Backend α) : StateM Backend α :=
  match answer with
  | some answer => pure answer
  | none => call

/-- Open a database as the script says: the code is its own, whatever came of opening. -/
def openingOr (answer : Option (Int32 × Bool))
    (call : StateM Backend (Int32 × Option (Handle .database))) :
    StateM Backend (Int32 × Option (Handle .database)) := do
  match answer with
  | none => call
  | some (code, true) => return (code, (← call).2)
  | some (code, false) => return (code, none)

/-- Fetch a column: none if fetching is scripted, one of the script's own results, or one
of the engine's. -/
def fetchOr (answer : Option (Reply Unit)) (result : Option (Handle .result)) (index : Nat)
    (call : StateM Backend (Reply (Option LiveColumn))) :
    StateM Backend (Reply (Option LiveColumn)) :=
  match answer with
  | some (.error text) => pure (.error text)
  | some (.ok ()) => pure (.ok none)
  | none =>
      if Backend.isScripted result then fun backend =>
        (.ok (backend.scriptedColumn? result index), backend)
      else call

/-- Leave alone what a script handed out. -/
def sparing (own : Bool) (call : StateM Backend (Reply Unit)) : StateM Backend (Reply Unit) :=
  if own then pure (.ok ()) else call

/-- The fixed answer of running a statement. -/
def executed (answer : Reply (Option LiveResult × Int)) : Reply Executed :=
  answer.map fun stored => ⟨stored.1, stored.2⟩

/-- The fixed answer of preparing a statement. -/
def prepared (answer : Reply (Option LiveStatement × Option LiveResult)) :
    Reply Prepared :=
  answer.map fun stored => ⟨stored.1, stored.2⟩

/-- The entry points with the fixed answers of a script. -/
def table (script : Script LiveResult) (base : FunctionTable Backend) : FunctionTable Backend where
  openDatabase url options := openingOr script.openDatabase (base.openDatabase url options)
  closeDatabase database := answerOr script.closeDatabase (base.closeDatabase database)
  lastError database := answerOr script.lastError (base.lastError database)
  getAutocommit database := answerOr script.getAutocommit (base.getAutocommit database)
  setAutocommit database value :=
    answerOr script.setAutocommit (base.setAutocommit database value)
  query database text := answerOr (script.query.map executed) (base.query database text)
  resultFetch result index :=
    fetchOr script.resultFetch result index (base.resultFetch result index)
  cleanupResult database result :=
    answerOr script.cleanupResult
      (sparing (Backend.isScripted result) (base.cleanupResult database result))
  prepare database text := answerOr (script.prepare.map prepared) (base.prepare database text)
  bind statement datum index :=
    answerOr script.bind (sparing (Backend.isScripted statement) (base.bind statement datum index))
  execute statement := answerOr (script.execute.map executed) (base.execute statement)
  cleanupStatement database statement :=
    answerOr script.cleanupStatement
      (sparing (Backend.isScripted statement) (base.cleanupStatement database statement))
  nullValue database tag :=
    if script.withoutNulls then pure (.ok none) else base.nullValue database tag
  writeCells column cells :=
    if Backend.isScripted (some column.result) then Backend.writeScripted column cells
    else base.writeCells column cells

end Script

end ColumnStore
