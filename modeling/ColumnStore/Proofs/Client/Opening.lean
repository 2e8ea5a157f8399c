import ColumnStore.Proofs.Client.Release

/-!
# Opening and closing databases

A library may hand out a database although opening it failed. Such a database is asked for the
reason, and closed again, before the failure is reported with that reason
(`Api.openDatabase_of_refused`). Over every run of a caller, each database that was handed out is
closed once or is still open, whatever the library answers; and no call to close a database or to
explain a failure is made without a database (`Caller.opened_eq_closed`).
-/

set_option autoImplicit false

namespace ColumnStore

open Journaled

/-- The databases among some objects. -/
def Loan.databases (loans : Multiset Loan) : Multiset Loan :=
  loans.filter (·.resource = .database)

namespace Loan

theorem databases_add (loans others : Multiset Loan) :
    databases (loans + others) = databases loans + databases others :=
  Multiset.filter_add ..

theorem databases_loan {σ : Type} (connection : Connection σ) :
    databases {connection.loan} = {connection.loan} :=
  Multiset.filter_singleton ..

theorem databases_eq_zero {loans : Multiset Loan}
    (others : ∀ loan ∈ loans, loan.resource ≠ .database) : databases loans = 0 :=
  Multiset.filter_eq_nil.2 others

end Loan

/-! ## What is written down of opening and closing -/

section Written

variable {σ : Type} {api : Api σ} {journaled : Journaled σ}

namespace Journaled

/-- The library changes, and an event is written down. -/
def write (journaled : Journaled σ) (library : σ) (event : Event) : Journaled σ :=
  ⟨library, journaled.entries ++ [⟨journaled.library, event⟩]⟩

theorem events_write (journaled : Journaled σ) (library : σ) (event : Event) :
    (journaled.write library event).events = journaled.events ++ [event] :=
  List.map_append ..

end Journaled

namespace Api

theorem journaled_openDatabase {url : Option NativeText} {options : Option NativeOptions}
    {code : Int32} {stored : Option (Handle .database)} {opened : σ}
    (run : api.table.openDatabase url options journaled.library = ((code, stored), opened)) :
    api.journaled.table.openDatabase url options journaled =
      ((code, stored), journaled.write opened (.opened api.layout code stored)) := by
  show noting (api.table.openDatabase url options)
    (fun answer => [.opened api.layout answer.1 answer.2]) journaled = _
  exact noting_of_eq run

theorem journaled_closeDatabase {handle : Handle .database} {code : Int32} {closed : σ}
    (run : api.table.closeDatabase (some handle) journaled.library = (code, closed)) :
    api.journaled.table.closeDatabase (some handle) journaled =
      (code, journaled.write closed (.closed api.layout (some handle) code)) := by
  show noting (api.table.closeDatabase (some handle))
    (fun code => [.closed api.layout (some handle) code]) journaled = _
  exact noting_of_eq run

theorem journaled_lastError {handle : Handle .database} {text : Option NativeText} {asked : σ}
    (run : api.table.lastError (some handle) journaled.library = (text, asked)) :
    api.journaled.lastError handle journaled =
      (text.map NativeText.toString, journaled.write asked (.explained (some handle) text)) := by
  have noted : noting (api.table.lastError (some handle))
      (fun text => [.explained (some handle) text]) journaled =
        (text, journaled.write asked (.explained (some handle) text)) :=
    noting_of_eq run
  show (fun answer : Option NativeText × Journaled σ =>
    (answer.1.map NativeText.toString, answer.2)) (noting _ _ journaled) = _
  rw [noted]

/-- What is written down of closing a database: if it fails, it is explained. -/
def closing (api : Api σ) (handle : Handle .database) (state : σ) : List Event :=
  let (code, closed) := api.table.closeDatabase (some handle) state
  .closed api.layout (some handle) code ::
    if code = 0 then []
    else [.explained (some handle) (api.table.lastError (some handle) closed).1]

theorem events_closeDatabase (api : Api σ) (handle : Handle .database)
    (journaled : Journaled σ) :
    (api.journaled.closeDatabase handle journaled).2.events =
      journaled.events ++ api.closing handle journaled.library := by
  rcases run : api.table.closeDatabase (some handle) journaled.library with ⟨code, closed⟩
  rw [closeDatabase, Call.bind_of_ok (Call.lift_eq_ok.2 (journaled_closeDatabase run)), closing,
    run]
  dsimp only
  by_cases succeeded : code = 0
  · rw [if_neg (not_not.2 succeeded), if_pos succeeded]
    exact events_write ..
  · rw [if_pos succeeded, if_neg succeeded]
    rcases asked : api.table.lastError (some handle) closed with ⟨text, final⟩
    let after := journaled.write closed (.closed api.layout (some handle) code)
    have explained : api.journaled.lastError handle after =
        (text.map NativeText.toString, after.write final (.explained (some handle) text)) :=
      journaled_lastError asked
    rw [Call.bind_of_ok (Call.lift_eq_ok.2 explained)]
    show (after.write final _).events = _
    rw [events_write, events_write, List.append_assoc]
    rfl

end Api

/-! ## A database that is refused -/

/-- What the caller is told of a database that was refused, and what is written down: the
database is asked for the reason, and then closed. -/
def Api.refusal (api : Api σ) (code : Int32) (stored : Option (Handle .database)) (opened : σ) :
    Error × List Event :=
  match stored with
  | none => (codeError .open code none, [.opened api.layout code none])
  | some handle =>
      let (text, asked) := api.table.lastError (some handle) opened
      (codeError .open code (text.map NativeText.toString),
        .opened api.layout code (some handle) :: .explained (some handle) text ::
          api.closing handle asked)

section Refused

variable {code : Int32} {stored : Option (Handle .database)} {opened : σ}

theorem Api.openDatabase_of_refused {url : Option NativeText} {options : Option NativeOptions}
    (run : api.table.openDatabase url options journaled.library = ((code, stored), opened))
    (refused : code ≠ 0) :
    ∃ final, api.journaled.openDatabase url options journaled =
        (.error (api.refusal code stored opened).1, final) ∧
      final.events = journaled.events ++ (api.refusal code stored opened).2 := by
  rw [openDatabase, Call.bind_of_ok (Call.lift_eq_ok.2 (journaled_openDatabase run))]
  dsimp only
  rw [if_neg refused]
  cases stored with
  | none => exact ⟨_, rfl, events_write ..⟩
  | some handle =>
      let after := journaled.write opened (.opened api.layout code (some handle))
      rcases asked : api.table.lastError (some handle) opened with ⟨text, known⟩
      have explained : api.journaled.lastError handle after =
          (text.map NativeText.toString, after.write known (.explained (some handle) text)) :=
        journaled_lastError asked
      dsimp only
      rw [Call.bind_of_ok (Call.lift_eq_ok.2 explained), refusal, asked]
      refine ⟨_, rfl, ?_⟩
      rw [events_closeDatabase, events_write, events_write, List.append_assoc, List.append_assoc]
      rfl

/-- **A refusal is reported with its reason**, and the database is closed. -/
theorem Connection.openDatabase_of_refused {address : Option String} {options : Options}
    {sent : Option NativeText} {native : NativeOptions}
    (terminated : terminated? address = .ok sent) (converted : options.toNative = .ok native)
    (run : api.table.openDatabase sent (some native) journaled.library = ((code, stored), opened))
    (refused : code ≠ 0) :
    ∃ final, openDatabase api.journaled address options journaled =
        (.error (api.refusal code stored opened).1, final) ∧
      final.events = journaled.events ++ (api.refusal code stored opened).2 := by
  obtain ⟨final, failed, events⟩ := Api.openDatabase_of_refused run refused
  refine ⟨final, ?_, events⟩
  rw [openDatabase, terminated, converted]
  show (api.journaled.openDatabase sent (some native) >>= _ : Call (Journaled σ) _) journaled = _
  exact Call.bind_of_error failed

end Refused

end Written

/-! ## Every run -/

section Runs

variable {σ ι : Type}

/-- Of what is alive, only the database itself is one. -/
theorem Holding.databases_loans (holding : Holding σ) :
    Loan.databases holding.loans = {holding.connection.loan} := by
  have others : Loan.databases (holding.resultLoans + holding.statementLoans) = 0 := by
    refine Loan.databases_eq_zero fun loan member => ?_
    rw [resultLoans, statementLoans, List.sum_map_singleton, List.sum_map_singleton] at member
    rcases Multiset.mem_add.1 member with result | statement
    · obtain ⟨result, _, rfl⟩ := List.mem_map.1 (Multiset.mem_coe.1 result)
      intro same
      cases same
    · obtain ⟨statement, _, rfl⟩ := List.mem_map.1 (Multiset.mem_coe.1 statement)
      intro same
      cases same
  rw [loans, Loan.databases_add, others, Loan.databases_loan, add_zero]

/-- The databases that a caller holds. -/
theorem Caller.databases_loans (caller : Caller σ) :
    Loan.databases caller.loans =
      (caller.holdings.map fun holding => holding.connection.loan : List Loan) := by
  unfold loans
  induction caller.holdings with
  | nil => rfl
  | cons holding rest ih =>
      rw [List.map_cons, List.sum_cons, Loan.databases_add, holding.databases_loans, ih]
      rfl

theorem Loan.databases_ofResult (stored : Option LiveResult) :
    databases (ofResult stored) = 0 := by
  cases stored <;> rfl

theorem Prepared.databases_lost (layout : TagLayout) (stops : Bool) (prepared : Prepared) :
    Loan.databases (prepared.lost layout stops) = 0 := by
  obtain ⟨statement, description⟩ := prepared
  cases statement with
  | none => exact Loan.databases_ofResult description
  | some live =>
      simp only [lost]
      split
      · rfl
      · exact Loan.databases_ofResult description

/-- What is lost is no database. -/
theorem databases_lost (events : List Event) : Loan.databases (total Event.lost events) = 0 := by
  have one (event : Event) : Loan.databases event.lost = 0 := by
    cases event with
    | prepared layout stored stops => exact Prepared.databases_lost layout stops stored
    | _ => rfl
  induction events with
  | nil => rfl
  | cons event rest ih =>
      rw [total, List.map_cons, List.sum_cons, Loan.databases_add, one, zero_add]
      exact ih

/-- **Every database is closed once**, and a failure to open one is reported with its reason. -/
theorem Caller.opened_eq_closed :
    (∀ (apis : ι → Api σ) (operations : List (Operation ι)) (library : σ),
      let caller := observed apis operations library
      let events := caller.library.events
      Loan.databases (total Event.handed events) =
          Loan.databases (total Event.released events) +
            (caller.holdings.map fun holding => holding.connection.loan : List Loan) ∧
        ∀ event ∈ events, event.Given) ∧
    ∀ (api : Api σ) (address : Option String) (options : Options) (sent : Option NativeText)
      (native : NativeOptions) (journaled : Journaled σ) (code : Int32)
      (stored : Option (Handle .database)) (opened : σ),
      Connection.terminated? address = .ok sent → options.toNative = .ok native →
      api.table.openDatabase sent (some native) journaled.library = ((code, stored), opened) →
      code ≠ 0 →
      ∃ final, Connection.openDatabase api.journaled address options journaled =
          (.error (api.refusal code stored opened).1, final) ∧
        final.events = journaled.events ++ (api.refusal code stored opened).2 := by
  refine ⟨fun apis operations library => ?_, fun api address options sent native journaled code
    stored opened terminated converted run refused =>
      Connection.openDatabase_of_refused terminated converted run refused⟩
  have accounted := Caller.accounted_observed (fun name => (apis name).accounts_anything)
    operations library trivial
  refine ⟨?_, accounted.owed.given⟩
  rw [accounted.owed.balanced, Loan.databases_add, Loan.databases_add, databases_lost, add_zero,
    Caller.databases_loans]

/-- A library that hands out a database but refuses to open it, and then to close it. -/
def refusing : FunctionTable Unit :=
  { Caller.unreadable with
    openDatabase := fun _ _ => pure (-2, some ⟨.script, 0⟩)
    closeDatabase := fun _ => pure (-1)
    lastError := fun _ => pure (some (NativeText.ofStringOrEmpty "no room")) }

/-- The reason is reported although closing fails too. -/
theorem Connection.openDatabase_refusing : ∃ final,
    openDatabase (Api.ofTable refusing ⟨true⟩).journaled none Options.default (start ()) =
      (.error (.native .open "no room"), final) ∧
    final.events = [.opened ⟨true⟩ (-2) (some ⟨.script, 0⟩),
      .explained (some ⟨.script, 0⟩) (some (NativeText.ofStringOrEmpty "no room")),
      .closed ⟨true⟩ (some ⟨.script, 0⟩) (-1),
      .explained (some ⟨.script, 0⟩) (some (NativeText.ofStringOrEmpty "no room"))] := by
  obtain ⟨native, converted⟩ : ∃ native, Options.default.toNative = .ok native := ⟨_, rfl⟩
  obtain ⟨final, reported, written⟩ := (@Caller.opened_eq_closed Unit Unit).2
    (Api.ofTable refusing ⟨true⟩) none Options.default none native (start ()) (-2)
    (some ⟨.script, 0⟩) () rfl converted rfl (by decide)
  have text : (Api.refusal (Api.ofTable refusing ⟨true⟩) (-2) (some ⟨.script, 0⟩) ()).1 =
      .native .open "no room" := by
    decide +kernel
  exact ⟨final, text ▸ reported, written⟩

end Runs

end ColumnStore
