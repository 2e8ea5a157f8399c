import ColumnStore.Proofs.Engine.Agreement
import ColumnStore.Session.Script

/-!
# Engines behind sessions

A session keeps an engine within a larger state, beside what scripts hand out. Without scripts
the entry points of the larger state are the engine's, so the engines of two layouts are
libraries that agree here too.

Main results: `Backend.agree_engineTable` and `Backend.agree_unscripted`.
-/

set_option autoImplicit false

namespace ColumnStore

variable {σ τ : Type} {left right : TagLayout}

namespace FunctionTable

/-- A part of a state that can be replaced again and again. -/
structure Part (part : τ → σ) (replace : σ → τ → τ) : Prop where
  part_replace : ∀ changed state, part (replace changed state) = changed
  replace_replace : ∀ changed earlier state,
    replace changed (replace earlier state) = replace changed state

/-- Rewriting a column of a larger state rewrites it within its part. -/
theorem lift_rewrite {part : τ → σ} {replace : σ → τ → τ} (laws : Part part replace)
    (table : FunctionTable σ) (change : LiveColumn → ColumnCells)
    (result : Option (Handle .result)) (index : Nat) :
    (table.lift part replace).rewrite change result index =
      within part replace (table.rewrite change result index) := by
  funext state
  rcases fetched : table.resultFetch result index (part state) with ⟨reply, next⟩
  have lifted : (table.lift part replace).resultFetch result index state =
      (reply, replace next state) := by
    show within part replace (table.resultFetch result index) state = _
    rw [within, fetched]
  rcases reply with text | _ | column
  · rw [rewrite_of_error lifted, within, rewrite_of_error fetched]
  · rw [rewrite_of_none lifted, within, rewrite_of_none fetched]
  · rw [rewrite_of_column lifted, within, rewrite_of_column fetched]
    have written : ((table.lift part replace).writeCells column (change column)
        (replace next state)).2 =
          replace (table.writeCells column (change column) next).2 state := by
      show (within part replace (table.writeCells column (change column))
        (replace next state)).2 = _
      rw [within, laws.part_replace]
      exact laws.replace_replace _ next state
    rw [written]

/-- Tables that agree on parts of larger states agree on the larger states. -/
theorem Agrees.lift {related : σ → σ → Prop} {larger : τ → τ → Prop} {part : τ → σ}
    {replace : σ → τ → τ} (laws : Part part replace)
    (parts : ∀ state second, larger state second → related (part state) (part second))
    (kept : ∀ state second, larger state second → ∀ changed next, related changed next →
      larger (replace changed state) (replace next second))
    {table other : FunctionTable σ} (agree : Agrees related left right table other) :
    Agrees larger left right (table.lift part replace) (other.lift part replace) where
  openDatabase url options := agree_within parts kept (agree.openDatabase url options)
  closeDatabase database := agree_within parts kept (agree.closeDatabase database)
  lastError database := agree_within parts kept (agree.lastError database)
  getAutocommit database := agree_within parts kept (agree.getAutocommit database)
  setAutocommit database value := agree_within parts kept (agree.setAutocommit database value)
  query database text portable := agree_within parts kept (agree.query database text portable)
  rewrite result index change second changes := by
    rw [lift_rewrite laws, lift_rewrite laws]
    exact agree_within parts kept (agree.rewrite result index change second changes)
  cleanupResult database result := agree_within parts kept (agree.cleanupResult database result)
  prepare database text portable := agree_within parts kept (agree.prepare database text portable)
  bind statement datum index := agree_within parts kept (agree.bind statement datum index)
  execute statement := agree_within parts kept (agree.execute statement)
  cleanupStatement database statement :=
    agree_within parts kept (agree.cleanupStatement database statement)
  nullValue database tag second same :=
    agree_within parts kept (agree.nullValue database tag second same)

end FunctionTable

namespace Backend

/-- Engines that agree, with nothing that a script handed out beside them. -/
structure Agrees (left right : TagLayout) (backend other : Backend) : Prop where
  engine : backend.engine.Agrees left right other.engine
  first : backend.scripted = []
  second : other.scripted = []

theorem agrees_empty (left right : TagLayout) : Agrees left right empty empty :=
  ⟨Engine.agrees_empty left right, rfl, rfl⟩

theorem enginePart : FunctionTable.Part Backend.engine withEngine :=
  ⟨fun _ _ => rfl, fun _ _ _ => rfl⟩

/-- **The engines of two layouts agree within a session.** -/
theorem agree_engineTable (left right : TagLayout) :
    FunctionTable.Agrees (Agrees left right) left right (engineTable left) (engineTable right) :=
  (Engine.agree_functionTable left right).lift enginePart (fun _ _ agree => agree.engine)
    fun _ _ agree _ _ engines => ⟨engines, agree.first, agree.second⟩

/-! ## Without scripts -/

/-- The engine as a library that nothing is scripted of. -/
def unscripted (layout : TagLayout) : FunctionTable Backend :=
  Script.nothing.table (engineTable layout)

/-- There is no column behind the handle of a script. -/
theorem rewrite_of_scripted {layout : TagLayout} {result : Option (Handle .result)}
    (scripted : isScripted result = true) (change : LiveColumn → ColumnCells) (index : Nat)
    {backend : Backend} (empty : backend.scripted = []) :
    (unscripted layout).rewrite change result index backend = (.ok none, backend) := by
  refine FunctionTable.rewrite_of_none ?_
  show Script.fetchOr none result index _ backend = _
  rw [Script.fetchOr, if_pos scripted]
  cases result with
  | none => rfl
  | some handle => simp [scriptedColumn?, empty]

/-- Any other column is the engine's. -/
theorem rewrite_of_not_scripted {layout : TagLayout} {result : Option (Handle .result)}
    (own : ¬ isScripted result = true) (change : LiveColumn → ColumnCells) (index : Nat) :
    (unscripted layout).rewrite change result index =
      (engineTable layout).rewrite change result index := by
  funext backend
  rcases fetched : (engineTable layout).resultFetch result index backend with ⟨reply, next⟩
  have same : (unscripted layout).resultFetch result index backend = (reply, next) := by
    show Script.fetchOr none result index ((engineTable layout).resultFetch result index)
      backend = _
    rw [Script.fetchOr, if_neg own, fetched]
  rcases reply with text | _ | column
  · rw [FunctionTable.rewrite_of_error fetched, FunctionTable.rewrite_of_error same]
  · rw [FunctionTable.rewrite_of_none fetched, FunctionTable.rewrite_of_none same]
  · have answered : (Engine.resultFetch result true index backend.engine).1 =
        .ok (some column) := congrArg (fun run => run.1) fetched
    have entry : Engine.resultFetch result true index backend.engine =
        (.ok (some column), (Engine.resultFetch result true index backend.engine).2) :=
      Prod.ext answered rfl
    have written : (unscripted layout).writeCells column (change column) =
        (engineTable layout).writeCells column (change column) := by
      rw [Engine.result_of_resultFetch entry] at own
      exact if_neg own
    rw [FunctionTable.rewrite_of_column fetched, FunctionTable.rewrite_of_column same, written]

theorem agree_sparing (own : Bool) {call other : StateM Backend (Reply Unit)}
    (agree : Agree (Agrees left right) (Except.Agree Eq) call other) :
    Agree (Agrees left right) (Except.Agree Eq) (Script.sparing own call)
      (Script.sparing own other) := by
  unfold Script.sparing
  split
  · exact agree_pure (.ok rfl)
  · exact agree

/-- **The engines of two layouts agree as libraries without scripts.** -/
theorem agree_unscripted (left right : TagLayout) :
    FunctionTable.Agrees (Agrees left right) left right (unscripted left) (unscripted right) where
  openDatabase := (agree_engineTable left right).openDatabase
  closeDatabase := (agree_engineTable left right).closeDatabase
  lastError := (agree_engineTable left right).lastError
  getAutocommit := (agree_engineTable left right).getAutocommit
  setAutocommit := (agree_engineTable left right).setAutocommit
  query := (agree_engineTable left right).query
  rewrite result index change second changes := by
    by_cases scripted : isScripted result = true
    · intro backend other start
      rw [rewrite_of_scripted scripted change index start.first,
        rewrite_of_scripted scripted second index start.second]
      exact ⟨.ok .none, start⟩
    · rw [rewrite_of_not_scripted scripted, rewrite_of_not_scripted scripted]
      exact (agree_engineTable left right).rewrite result index change second changes
  cleanupResult database result :=
    agree_sparing _ ((agree_engineTable left right).cleanupResult database result)
  prepare := (agree_engineTable left right).prepare
  bind statement datum index :=
    agree_sparing _ ((agree_engineTable left right).bind statement datum index)
  execute := (agree_engineTable left right).execute
  cleanupStatement database statement :=
    agree_sparing _ ((agree_engineTable left right).cleanupStatement database statement)
  nullValue := (agree_engineTable left right).nullValue

end Backend

end ColumnStore
