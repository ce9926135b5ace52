import SqlBridge.Engine.Run
import SqlBridge.Proofs.Engine.Calls
import SqlBridge.Proofs.Engine.Execution

/-! # Which calls a program makes

A program over the engine that notes its calls makes only calls of some kind if
the list of calls grows by such calls alone. Runs, checks and transaction verbs
work on the one handle that they are given: they never open or close one, and no
run and no check rolls a transaction back.
-/

namespace SqlBridge
variable {σ α β : Type}

namespace Call

def worksOn (h : Handle) : Call → Bool
  | connect _ _ | close _ => false
  | version => true
  | setBusyTimeout h' _ | defineText h' _ _ | execute h' _ | compile h' _ _ | parameterCount h' _
  | bind h' _ _ _ | columns h' _ | step h' _ | finalize h' _ | changes h' | totalChanges h'
  | lastRowId h' | autocommit h' | lastFailure h' => h' = h

def rollsBack : Call → Bool
  | execute _ sql => sql = "ROLLBACK"
  | _ => false

def IsWork (h : Handle) (call : Call) : Prop := call.worksOn h = true ∧ call.rollsBack = false

end Call

def MakesOnly (kind : Call → Prop) (program : StateM (σ × List Call) α) : Prop :=
  ∀ p, ∃ calls, (program p).2.2 = p.2 ++ calls ∧ ∀ call ∈ calls, kind call

namespace MakesOnly
variable {kind kind' : Call → Prop} {program : StateM (σ × List Call) α}

theorem pure (a : α) : MakesOnly kind (Pure.pure a : StateM (σ × List Call) α) :=
  fun p => ⟨[], (List.append_nil p.2).symm, by simp⟩

theorem call {call : Call} (allowed : kind call) (act : StateM σ α) :
    MakesOnly kind (noted call act) :=
  fun _ => ⟨[call], rfl, by simpa using allowed⟩

theorem bind {next : α → StateM (σ × List Call) β} (first : MakesOnly kind program)
    (second : ∀ a, MakesOnly kind (next a)) : MakesOnly kind (program >>= next) := by
  intro p
  obtain ⟨calls, made, allowed⟩ := first p
  obtain ⟨calls', made', allowed'⟩ := second (program p).1 (program p).2
  refine ⟨calls ++ calls', ?_, ?_⟩
  · rw [Engine.bind_apply, made', made, List.append_assoc]
  · simpa [or_imp, forall_and] using ⟨allowed, allowed'⟩

theorem work {h : Handle} {call : Call} (works : call.worksOn h = true) (act : StateM σ α)
    (other : call.rollsBack = false := by rfl) : MakesOnly (Call.IsWork h) (noted call act) :=
  .call ⟨works, other⟩ act

theorem mono (only : MakesOnly kind program) (weaker : ∀ call, kind call → kind' call) :
    MakesOnly kind' program := by
  intro p
  obtain ⟨calls, made, allowed⟩ := only p
  exact ⟨calls, made, fun call mem => weaker call (allowed call mem)⟩

end MakesOnly

namespace Engine
variable (eng : Engine σ) (h : Handle) (sql : String)

theorem recordedError_only : MakesOnly (Call.IsWork h) (eng.logged.recordedError h sql) :=
  .bind (.work (by simp [Call.worksOn]) _) fun f => .pure _

theorem giveUp_only :
    MakesOnly (Call.IsWork h) (do return (.error (← eng.logged.recordedError h sql) : Except Error α)) :=
  .bind (recordedError_only eng h sql) fun _ => .pure _

theorem compileAt_only (offset : Nat) :
    MakesOnly (Call.IsWork h) (eng.logged.compileAt h sql offset) := by
  rw [compileAt]
  split
  · exact .pure _
  · apply MakesOnly.bind (.work (by simp [Call.worksOn]) _)
    intro compiled
    cases compiled with
    | ok c => exact .pure _
    | error code => exact giveUp_only eng h sql

theorem bindFrom_only (p : Program) (accepted i : Nat) (params : List Value) :
    MakesOnly (Call.IsWork h) (eng.logged.bindFrom h p sql accepted i params) := by
  induction params generalizing i with
  | nil => exact .pure _
  | cons v vs ih =>
    rw [bindFrom]
    split
    · exact .pure _
    · cases Cell.ofValue? v with
      | none => exact giveUp_only eng h sql
      | some cell =>
        apply MakesOnly.bind (.work (by simp [Call.worksOn]) _)
        intro bound
        cases bound with
        | ok _ => exact ih (i + 1)
        | error code => exact giveUp_only eng h sql

theorem runProgram_only (p : Program) (params : List Value) :
    MakesOnly (Call.IsWork h) (eng.logged.runProgram h p sql params) := by
  apply MakesOnly.bind (.work (by simp [Call.worksOn]) _)
  intro accepted
  apply MakesOnly.bind (bindFrom_only eng h sql p accepted 1 params)
  intro bound
  cases bound with
  | error e => exact .pure _
  | ok _ =>
    apply MakesOnly.bind (.work (by simp [Call.worksOn]) _)
    intro described
    apply MakesOnly.bind (.work (by simp [Call.worksOn]) _)
    intro before
    apply MakesOnly.bind (.work (by simp [Call.worksOn]) _)
    intro stepping
    cases stepping.failure with
    | some code => exact giveUp_only eng h sql
    | none =>
      apply MakesOnly.bind (.work (by simp [Call.worksOn]) _)
      intro after
      split
      · exact .pure _
      · exact .bind (.work (by simp [Call.worksOn]) _) fun changes => .pure _

theorem runFrom_only (params : List Value) (offset : Nat) (result : RunResult) :
    MakesOnly (Call.IsWork h) (eng.logged.runFrom h sql params offset result) := by
  rw [runFrom]
  split
  · apply MakesOnly.bind (compileAt_only eng h sql offset)
    intro compiled
    cases compiled with
    | error e => exact .pure _
    | ok c =>
      have further := lt_offsetAfter sql offset c
      obtain ⟨program, used⟩ := c
      cases program with
      | none => exact runFrom_only params (offsetAfter sql offset ⟨none, used⟩) result
      | some p =>
        apply MakesOnly.bind (runProgram_only eng h sql p params)
        intro outcome
        apply MakesOnly.bind (.work (by simp [Call.worksOn]) _)
        intro _
        cases outcome with
        | error e => exact .pure _
        | ok next => exact runFrom_only [] (offsetAfter sql offset ⟨some p, used⟩) next
  · exact .pure _
termination_by sql.utf8ByteSize - offset

theorem run_only (params : List Value) : MakesOnly (Call.IsWork h) (eng.logged.run h sql params) := by
  rw [run]
  split
  · exact .pure _
  · exact runFrom_only eng h sql params 0 .empty

theorem compileFrom_only (offset : Nat) :
    MakesOnly (Call.IsWork h) (eng.logged.compileFrom h sql offset) := by
  rw [compileFrom]
  split
  · apply MakesOnly.bind (compileAt_only eng h sql offset)
    intro compiled
    cases compiled with
    | error e => exact .pure _
    | ok c =>
      have further := lt_offsetAfter sql offset c
      obtain ⟨program, used⟩ := c
      cases program with
      | none => exact compileFrom_only (offsetAfter sql offset ⟨none, used⟩)
      | some p =>
        apply MakesOnly.bind (.work (by simp [Call.worksOn]) _)
        intro _
        exact compileFrom_only (offsetAfter sql offset ⟨some p, used⟩)
  · exact .pure _
termination_by sql.utf8ByteSize - offset

theorem compileAll_only : MakesOnly (Call.IsWork h) (eng.logged.compileAll h sql) := by
  rw [compileAll]
  split
  · exact .pure _
  · exact compileFrom_only eng h sql 0

variable {h sql} {kind : Call → Prop}

theorem executeText_only (allowed : kind (.execute h sql)) :
    MakesOnly kind (eng.logged.executeText h sql) := by
  rw [executeText]
  split
  · exact .pure _
  · apply MakesOnly.bind (.call allowed _)
    intro executed
    cases executed <;> exact .pure _

end Engine

end SqlBridge
