import SqlBridge.Engine.Run

/-! # What a run executes

A run compiles the pieces of a text one after the other and executes those that
hold a statement. A run that succeeds is described by the list of its
executions, in text order: what each one started from and what it gave. The
description is exact, so a property of whole runs can be proved by induction on
it, with one case for a blank piece and one for a statement.
-/

namespace SqlBridge

/-- One statement executed in a run: the program, the values for its parameters, the engine's state
before the first of them is bound, and the result. -/
structure Execution (σ : Type) where
  program : Program
  params : List Value
  start : σ
  result : RunResult

namespace Engine
variable {σ : Type}

def lastResult (result : RunResult) (done : List (Execution σ)) : RunResult :=
  (done.getLast?.map Execution.result).getD result

theorem lastResult_cons (result : RunResult) (e : Execution σ) (done : List (Execution σ)) :
    lastResult result (e :: done) = lastResult e.result done := by
  rw [lastResult, List.getLast?_cons]
  cases h : done.getLast? with
  | none => simp [lastResult, h]
  | some last => simp [lastResult, h]

theorem bind_apply {α β : Type} (x : StateM σ α) (f : α → StateM σ β) (s : σ) :
    (x >>= f) s = f (x s).1 (x s).2 :=
  rfl

variable (eng : Engine σ) (h : Handle) (sql : String)

def offsetAfter (offset : Nat) (c : Compilation) : Nat :=
  offset + advance (sql.utf8ByteSize - offset) c.used

theorem lt_offsetAfter (offset : Nat) (c : Compilation) : offset < offsetAfter sql offset c :=
  Nat.lt_add_of_pos_right (advance_pos _ _)

/-- From an offset and a state on, the rest of the text executes the listed statements with success
and leaves the last state. -/
inductive Executes : List Value → Nat → σ → List (Execution σ) → σ → Prop where
  | finished {params : List Value} {offset : Nat} {s : σ} (past : sql.utf8ByteSize ≤ offset) :
      Executes params offset s [] s
  | blank {params : List Value} {offset : Nat} {s s₁ s' : σ} {c : Compilation}
      {done : List (Execution σ)} (inside : offset < sql.utf8ByteSize)
      (compiled : eng.compileAt h sql offset s = (.ok c, s₁)) (nothing : c.program = none)
      (rest : Executes params (offsetAfter sql offset c) s₁ done s') :
      Executes params offset s done s'
  | statement {params : List Value} {offset : Nat} {s s₁ s₂ s' : σ} {c : Compilation}
      {program : Program} {result : RunResult} {done : List (Execution σ)}
      (inside : offset < sql.utf8ByteSize)
      (compiled : eng.compileAt h sql offset s = (.ok c, s₁)) (found : c.program = some program)
      (executed : eng.runProgram h program sql params s₁ = (.ok result, s₂))
      (rest : Executes [] (offsetAfter sql offset c) (eng.finalize h program s₂).2 done s') :
      Executes params offset s (⟨program, params, s₁, result⟩ :: done) s'

variable {eng h sql}

theorem runFrom_past {offset : Nat} (past : sql.utf8ByteSize ≤ offset) (params : List Value)
    (result : RunResult) (s : σ) :
    eng.runFrom h sql params offset result s = (.ok result, s) := by
  rw [runFrom, if_neg (Nat.not_lt.mpr past)]
  rfl

theorem runFrom_inside {offset : Nat} (inside : offset < sql.utf8ByteSize) (params : List Value)
    (result : RunResult) (s : σ) :
    eng.runFrom h sql params offset result s =
      match eng.compileAt h sql offset s with
      | (.error e, s₁) => (.error e, s₁)
      | (.ok c, s₁) =>
        match c.program with
        | none => eng.runFrom h sql params (offsetAfter sql offset c) result s₁
        | some program =>
          match eng.runProgram h program sql params s₁ with
          | (.error e, s₂) => (.error e, (eng.finalize h program s₂).2)
          | (.ok next, s₂) =>
            eng.runFrom h sql [] (offsetAfter sql offset c) next (eng.finalize h program s₂).2 := by
  rw [runFrom, if_pos inside, bind_apply]
  obtain ⟨compiled, s₁⟩ := eng.compileAt h sql offset s
  cases compiled with
  | error e => rfl
  | ok c =>
    cases found : c.program with
    | none => simp only [found]; rfl
    | some program =>
      simp only [found, bind_apply]
      obtain ⟨outcome, s₂⟩ := eng.runProgram h program sql params s₁
      cases outcome <;> rfl

/-- A run that succeeds has executed a list of statements, and the result is that of the last. -/
theorem executes_of_runFrom {params : List Value} {offset : Nat} {s s' : σ}
    {result last : RunResult}
    (ran : eng.runFrom h sql params offset result s = (.ok last, s')) :
    ∃ done, Executes eng h sql params offset s done s' ∧ last = lastResult result done := by
  rcases Nat.lt_or_ge offset sql.utf8ByteSize with inside | past
  · rw [runFrom_inside inside] at ran
    rcases compiled : eng.compileAt h sql offset s with ⟨_ | c, s₁⟩
    · rw [compiled] at ran
      cases ran
    · have further := lt_offsetAfter sql offset c
      rcases found : c.program with _ | program
      · simp only [compiled, found] at ran
        obtain ⟨done, executes, last⟩ := executes_of_runFrom ran
        exact ⟨done, .blank inside compiled found executes, last⟩
      · rcases executed : eng.runProgram h program sql params s₁ with ⟨_ | next, s₂⟩
        · simp only [compiled, found, executed] at ran
          cases ran
        · simp only [compiled, found, executed] at ran
          obtain ⟨done, executes, last⟩ := executes_of_runFrom ran
          refine ⟨_, .statement inside compiled found executed executes, ?_⟩
          rw [lastResult_cons, last]
  · rw [runFrom_past past] at ran
    cases ran
    exact ⟨[], .finished past, rfl⟩
termination_by sql.utf8ByteSize - offset

/-- A described run takes place, after any earlier result. -/
theorem Executes.runFrom {params : List Value} {offset : Nat} {s s' : σ}
    {done : List (Execution σ)} (executes : Executes eng h sql params offset s done s')
    (result : RunResult) :
    eng.runFrom h sql params offset result s = (.ok (lastResult result done), s') := by
  induction executes generalizing result with
  | finished past => exact runFrom_past past _ _ _
  | blank inside compiled nothing rest ih =>
    rw [runFrom_inside inside, compiled]
    simp only [nothing]
    exact ih result
  | statement inside compiled found executed rest ih =>
    rw [runFrom_inside inside, compiled, lastResult_cons]
    simp only [found, executed]
    exact ih _

theorem executes_of_run {params : List Value} {s s' : σ} {result : RunResult}
    (ran : eng.run h sql params s = (.ok result, s')) :
    ∃ done, Executes eng h sql params 0 s done s' ∧ result = lastResult .empty done := by
  cases plain : hasNul sql with
  | true =>
    simp only [run, plain] at ran
    cases ran
  | false =>
    rw [run, plain] at ran
    exact executes_of_runFrom ran

/-- The calls behind the result of an executed statement, each with the state that it left. -/
theorem runProgram_ok {program : Program} {params : List Value} {s s' : σ} {result : RunResult}
    (ran : eng.runProgram h program sql params s = (.ok result, s')) :
    ∃ accepted s₁ s₂ described s₃ before s₄ rows s₅ after s₆,
      eng.parameterCount h program s = (accepted, s₁) ∧
      eng.bindFrom h program sql accepted 1 params s₁ = (.ok (), s₂) ∧
      eng.columns h program s₂ = (described, s₃) ∧
      eng.totalChanges h s₃ = (before, s₄) ∧
      eng.step h program s₄ = (⟨rows, none⟩, s₅) ∧
      eng.totalChanges h s₅ = (after, s₆) ∧
      result.columns = .ofTypes (described.map Prod.fst) (described.map Prod.snd) ∧
      result.rows = rows.map (readRow result.columns) ∧
      result.changes =
        if changeCount after = changeCount before then 0
        else changeCount (eng.changes h s₆).1 := by
  rw [runProgram, bind_apply] at ran
  rcases counted : eng.parameterCount h program s with ⟨accepted, s₁⟩
  rw [counted, bind_apply] at ran
  rcases bound : eng.bindFrom h program sql accepted 1 params s₁ with ⟨_ | _, s₂⟩
  · rw [bound] at ran
    cases ran
  · simp only [bound, bind_apply] at ran
    rcases shown : eng.columns h program s₂ with ⟨described, s₃⟩
    rcases first : eng.totalChanges h s₃ with ⟨before, s₄⟩
    rcases stepped : eng.step h program s₄ with ⟨⟨rows, failure⟩, s₅⟩
    rcases second : eng.totalChanges h s₅ with ⟨after, s₆⟩
    simp only [shown, first, stepped] at ran
    rcases failure with _ | code
    · simp only [bind_apply, second] at ran
      refine ⟨accepted, s₁, s₂, described, s₃, before, s₄, rows, s₅, after, s₆, rfl, bound, shown,
        first, stepped, second, ?_⟩
      split at ran
      next same =>
        cases ran
        exact ⟨rfl, rfl, by rw [if_pos same]⟩
      next differ =>
        cases ran
        exact ⟨rfl, rfl, by rw [if_neg differ]⟩
    · cases ran

end Engine
end SqlBridge
