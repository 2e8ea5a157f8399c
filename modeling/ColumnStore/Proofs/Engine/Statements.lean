import ColumnStore.Proofs.Engine.Changes

/-!
# Statements that are kept

The engine keeps a prepared statement under a number of its own: only a request to release it or
to bind its parameters can change it (`statement?_perform`). A database keeps its layout as long
as it is open, whatever is done to its tables (`openedWith_perform`), and it is open until it is
closed (`isOpen_perform`).
-/

set_option autoImplicit false

namespace ColumnStore

namespace Engine

/-! ## Statements -/

/-- The request neither releases the statement behind a handle nor binds its parameters. -/
def Request.SparesStatement (handle : Handle .statement) : Request → Prop
  | bind (some other) _ _ => other.number ≠ handle.number
  | cleanupStatement _ (some other) => other.number ≠ handle.number
  | _ => True

section Statements

variable {engine : Engine} {handle : Handle .statement} {stored : StoredStatement}

/-- A statement that is handed out can be followed. -/
theorem statement?_addStatement_self (engine : Engine) (stored : StoredStatement)
    (tags : List Int32) : (engine.addStatement stored tags).2.statement?
      (some (engine.addStatement stored tags).1.handle) = some stored :=
  Registry.find?_add_next _ _

/-- **A request that spares a statement leaves it as it is**, with the values bound to it. -/
theorem statement?_perform (kept : engine.statement? (some handle) = some stored)
    {request : Request} (spares : request.SparesStatement handle) :
    (request.perform engine).statement? (some handle) = some stored := by
  let Keeps (engine : Engine) : Prop := engine.statement? (some handle) = some stored
  refine perform_property Keeps (fun before after kept change => ?_) kept
  cases change with
  | addStatement other tags => exact follow_add kept other
  | setStatement asked _ _ =>
      subst asked
      exact follow_modify_of_ne kept spares _
  | removeStatement asked =>
      subst asked
      exact follow_remove kept spares
  | _ => exact kept

end Statements

/-! ## Layouts -/

/-- The handle was given out for a database with this layout, which may have been closed since. -/
structure OpenedWith (engine : Engine) (handle : Handle .database) (layout : TagLayout) : Prop where
  given : handle.number < engine.databases.nextNumber
  layout_eq : ∀ database, engine.databases.find? handle.number = some database →
    database.layout = layout

section Layouts

variable {engine : Engine} {handle home : Handle .database} {layout : TagLayout}
  {database changed : Database}

theorem OpenedWith.of_database? (found : engine.database? (some handle) = some database) :
    engine.OpenedWith handle database.layout := by
  refine ⟨number_lt_of_follow found, fun other there => ?_⟩
  rw [(follow_eq_some.1 found).2] at there
  cases there
  rfl

theorem OpenedWith.layout_of_database? (opened : engine.OpenedWith handle layout)
    (found : engine.database? (some handle) = some database) : database.layout = layout :=
  opened.layout_eq database (follow_eq_some.1 found).2

theorem OpenedWith.addDatabase (opened : engine.OpenedWith handle layout) (database : Database) :
    (engine.addDatabase database).2.OpenedWith handle layout := by
  have given := opened.given
  refine ⟨?_, fun other there => opened.layout_eq other ?_⟩
  · show handle.number < (engine.databases.add database).nextNumber
    rw [Registry.nextNumber, Registry.add, List.length_append]
    exact Nat.lt_of_lt_of_le given (Nat.le_add_right _ _)
  · exact (Registry.find?_add_of_ne _ _ (Nat.ne_of_lt given)).symm.trans there

/-- A database is replaced by one of the same layout. -/
theorem OpenedWith.setDatabase (opened : engine.OpenedWith handle layout)
    (found : engine.database? (some home) = some database)
    (same : changed.layout = database.layout) :
    (engine.setDatabase home changed).OpenedWith handle layout := by
  refine ⟨?_, fun other there => ?_⟩
  · exact Nat.lt_of_lt_of_eq opened.given (List.length_modify _ _ _).symm
  · rw [Engine.setDatabase, Registry.find?_modify] at there
    split at there
    · next here =>
        obtain ⟨before, known, rfl⟩ := Option.map_eq_some_iff.1 there
        rw [← here, (follow_eq_some.1 found).2] at known
        cases known
        rw [same]
        exact opened.layout_eq database (here ▸ (follow_eq_some.1 found).2)
    · exact opened.layout_eq other there

theorem OpenedWith.removeDatabase (opened : engine.OpenedWith handle layout)
    (other : Handle .database) : (engine.removeDatabase other).OpenedWith handle layout := by
  refine ⟨?_, fun database there => opened.layout_eq database ?_⟩
  · exact Nat.lt_of_lt_of_eq opened.given (List.length_set).symm
  · rw [Engine.removeDatabase, Registry.find?_remove] at there
    split at there
    · cases there
    · exact there

/-- **A request leaves a database its layout**, or closes it. -/
theorem openedWith_perform (opened : engine.OpenedWith handle layout) (request : Request) :
    (request.perform engine).OpenedWith handle layout := by
  let Keeps (engine : Engine) : Prop := engine.OpenedWith handle layout
  refine perform_property Keeps (fun before after opened change => ?_) opened
  cases change with
  | addDatabase _ => exact opened.addDatabase _
  | runStatement found _ executed =>
      exact opened.setDatabase found (Database.layout_execute executed)
  | setDatabase found layout _ => exact opened.setDatabase found layout
  | removeDatabase _ => exact opened.removeDatabase _
  | _ => exact ⟨opened.given, opened.layout_eq⟩

/-- The first database has the layout that it was opened with, whatever is requested next. -/
theorem openedWith_after (layout : TagLayout) (url : Option NativeText)
    (options : Option NativeOptions) (requests : List Request) :
    (after (.openDatabase layout true url options :: requests)).OpenedWith ⟨.engine, 0⟩
      layout := by
  have later (engine : Engine) (opened : engine.OpenedWith ⟨.engine, 0⟩ layout) :
      (requests.foldl (fun engine request => request.perform engine) engine).OpenedWith
        ⟨.engine, 0⟩ layout := by
    induction requests generalizing engine with
    | nil => exact opened
    | cons request rest ih => exact ih _ (openedWith_perform opened request)
  refine later _ ?_
  have first (database : Database) :
      (empty.addDatabase database).2.OpenedWith ⟨.engine, 0⟩ database.layout :=
    .of_database? rfl
  simp only [Request.perform, openDatabase, Bool.not_true, Bool.false_eq_true, if_false]
  split
  · exact first (.new layout)
  · exact first _

end Layouts

/-! ## Open databases -/

/-- The request does not close the database behind a handle. -/
def Request.SparesDatabase (handle : Handle .database) : Request → Prop
  | closeDatabase (some other) => other.number ≠ handle.number
  | _ => True

/-- The handle leads to a database. -/
def IsOpen (engine : Engine) (handle : Handle .database) : Prop :=
  ∃ database, engine.database? (some handle) = some database

section Open

variable {engine : Engine} {handle : Handle .database}

theorem IsOpen.setDatabase (opened : engine.IsOpen handle) (home : Handle .database)
    (changed : Database) : (engine.setDatabase home changed).IsOpen handle := by
  obtain ⟨database, found⟩ := opened
  by_cases same : home.number = handle.number
  · refine ⟨changed, ?_⟩
    unfold Engine.setDatabase
    rw [same]
    exact follow_modify found _
  · exact ⟨database, follow_modify_of_ne found same _⟩

/-- **A request that spares a database leaves it open.** -/
theorem isOpen_perform (opened : engine.IsOpen handle) {request : Request}
    (spares : request.SparesDatabase handle) : (request.perform engine).IsOpen handle := by
  let Keeps (engine : Engine) : Prop := engine.IsOpen handle
  refine perform_property Keeps (fun before after opened change => ?_) opened
  cases change with
  | addDatabase _ =>
      obtain ⟨known, found⟩ := opened
      exact ⟨known, follow_add found _⟩
  | runStatement _ _ _ => exact opened.setDatabase _ _
  | setDatabase _ _ _ => exact opened.setDatabase _ _
  | removeDatabase asked =>
      subst asked
      obtain ⟨known, found⟩ := opened
      exact ⟨known, follow_remove found spares⟩
  | _ => exact opened

end Open

end Engine

end ColumnStore
