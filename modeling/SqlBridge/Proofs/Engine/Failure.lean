import SqlBridge.Error.Last
import SqlBridge.Proofs.Engine.Execution

/-! # What a run fails with

Compiling and running a text, and executing a transaction verb, fail in two ways
only: the text cannot be passed on, or the engine or a limit of it gave a result
code. No code stands for the SQLSTATE of a success, so none of these failures
can be taken for one.
-/

namespace SqlBridge
variable {σ : Type}

/-- The errors that arise on a text once the engine is to see it. -/
inductive RunError (sql : String) : Error → Prop where
  | code (code : Int) (message : String) : RunError sql (engineError code message sql)
  | nul : RunError sql (nulError sql)

theorem stateOfCode_ne_success (code : Int) : stateOfCode code ≠ LastError.successState := by
  simp only [stateOfCode]
  repeat' split
  all_goals decide

namespace RunError
variable {sql : String} {e : Error}

theorem isFromEngine (raised : RunError sql e) : e.isFromEngine = true := by
  cases raised <;> rfl

theorem ofError_ne_success (raised : RunError sql e) :
    (LastError.ofError e).sqlstate ≠ LastError.successState := by
  cases raised with
  | code code message => exact stateOfCode_ne_success code
  | nul => exact (by decide : generalState ≠ LastError.successState)

end RunError

namespace Engine
variable {eng : Engine σ} {h : Handle} {sql : String} {s : σ} {e : Error} {params : List Value}

theorem runError_recorded (s : σ) : RunError sql (eng.recordedError h sql s).1 := .code _ _

theorem runError_of_compileAt {offset : Nat} (failed : (eng.compileAt h sql offset s).1 = .error e) :
    RunError sql e := by
  rw [compileAt] at failed
  split at failed
  · cases failed
    exact .code _ _
  · rw [bind_apply] at failed
    rcases compiled : eng.compile h sql offset s with ⟨_ | c, s₁⟩
    · rw [compiled] at failed
      cases failed
      exact runError_recorded s₁
    · rw [compiled] at failed
      cases failed

theorem runError_of_bindFrom {program : Program} {accepted i : Nat}
    (failed : (eng.bindFrom h program sql accepted i params s).1 = .error e) : RunError sql e := by
  induction params generalizing i s with
  | nil => cases failed
  | cons v vs ih =>
    rw [bindFrom] at failed
    split at failed
    · cases failed
      exact .code _ _
    · cases bound : Cell.ofValue? v with
      | none =>
        simp only [bound] at failed
        cases failed
        exact runError_recorded s
      | some cell =>
        simp only [bound, bind_apply] at failed
        rcases passed : eng.bind h program i cell s with ⟨_ | _, s₁⟩
        · rw [passed] at failed
          cases failed
          exact runError_recorded s₁
        · rw [passed] at failed
          exact ih failed

theorem runError_of_runProgram {program : Program}
    (failed : (eng.runProgram h program sql params s).1 = .error e) : RunError sql e := by
  rw [runProgram, bind_apply] at failed
  rcases counted : eng.parameterCount h program s with ⟨accepted, s₁⟩
  rw [counted, bind_apply] at failed
  rcases bound : eng.bindFrom h program sql accepted 1 params s₁ with ⟨e' | _, s₂⟩
  · rw [bound] at failed
    cases failed
    exact runError_of_bindFrom (congrArg Prod.fst bound)
  · simp only [bound, bind_apply] at failed
    rcases shown : eng.columns h program s₂ with ⟨described, s₃⟩
    rcases first : eng.totalChanges h s₃ with ⟨before, s₄⟩
    rcases stepped : eng.step h program s₄ with ⟨⟨rows, failure⟩, s₅⟩
    simp only [shown, first, stepped] at failed
    cases failure with
    | some code =>
      cases failed
      exact runError_recorded s₅
    | none =>
      simp only [bind_apply] at failed
      split at failed <;> cases failed

theorem runError_of_runFrom {params : List Value} {offset : Nat} {result : RunResult} {s : σ}
    (failed : (eng.runFrom h sql params offset result s).1 = .error e) : RunError sql e := by
  rcases Nat.lt_or_ge offset sql.utf8ByteSize with inside | past
  · rw [runFrom_inside inside] at failed
    have further (c : Compilation) := lt_offsetAfter sql offset c
    rcases compiled : eng.compileAt h sql offset s with ⟨e' | c, s₁⟩
    · rw [compiled] at failed
      cases failed
      exact runError_of_compileAt (congrArg Prod.fst compiled)
    · rcases found : c.program with _ | program
      · simp only [compiled, found] at failed
        exact runError_of_runFrom failed
      · rcases executed : eng.runProgram h program sql params s₁ with ⟨e' | next, s₂⟩
        · simp only [compiled, found, executed] at failed
          cases failed
          exact runError_of_runProgram (congrArg Prod.fst executed)
        · simp only [compiled, found, executed] at failed
          exact runError_of_runFrom failed
  · rw [runFrom_past past] at failed
    cases failed
termination_by sql.utf8ByteSize - offset
decreasing_by
  all_goals
    have := further c
    omega

theorem runError_of_run (failed : (eng.run h sql params s).1 = .error e) : RunError sql e := by
  rw [run] at failed
  split at failed
  · cases failed
    exact .nul
  · exact runError_of_runFrom failed

theorem compileFrom_past {offset : Nat} (past : sql.utf8ByteSize ≤ offset) (s : σ) :
    eng.compileFrom h sql offset s = (.ok (), s) := by
  rw [compileFrom, if_neg (Nat.not_lt.mpr past)]
  rfl

theorem compileFrom_inside {offset : Nat} (inside : offset < sql.utf8ByteSize) (s : σ) :
    eng.compileFrom h sql offset s =
      match eng.compileAt h sql offset s with
      | (.error e, s₁) => (.error e, s₁)
      | (.ok c, s₁) =>
        eng.compileFrom h sql (offsetAfter sql offset c)
          (c.program.elim s₁ fun program => (eng.finalize h program s₁).2) := by
  rw [compileFrom, if_pos inside, bind_apply]
  obtain ⟨compiled, s₁⟩ := eng.compileAt h sql offset s
  cases compiled with
  | error e => rfl
  | ok c => cases found : c.program <;> simp only [found] <;> rfl

theorem runError_of_compileFrom {offset : Nat} {s : σ}
    (failed : (eng.compileFrom h sql offset s).1 = .error e) : RunError sql e := by
  rcases Nat.lt_or_ge offset sql.utf8ByteSize with inside | past
  · rw [compileFrom_inside inside] at failed
    have further (c : Compilation) := lt_offsetAfter sql offset c
    rcases compiled : eng.compileAt h sql offset s with ⟨e' | c, s₁⟩
    · rw [compiled] at failed
      cases failed
      exact runError_of_compileAt (congrArg Prod.fst compiled)
    · simp only [compiled] at failed
      exact runError_of_compileFrom failed
  · rw [compileFrom_past past] at failed
    cases failed
termination_by sql.utf8ByteSize - offset
decreasing_by
  have := further c
  omega

theorem runError_of_compileAll (failed : (eng.compileAll h sql s).1 = .error e) :
    RunError sql e := by
  rw [compileAll] at failed
  split at failed
  · cases failed
    exact .nul
  · exact runError_of_compileFrom failed

theorem runError_of_executeText (failed : (eng.executeText h sql s).1 = .error e) :
    RunError sql e := by
  rw [executeText] at failed
  split at failed
  · cases failed
    exact .nul
  · rw [bind_apply] at failed
    rcases executed : eng.execute h sql s with ⟨f | _, s₁⟩
    · rw [executed] at failed
      cases failed
      exact .code _ _
    · rw [executed] at failed
      cases failed

end Engine
end SqlBridge
