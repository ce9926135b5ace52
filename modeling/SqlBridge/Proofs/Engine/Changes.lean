import SqlBridge.Engine.Recording
import SqlBridge.Proofs.Engine.Execution

/-! # The count of changed rows

A run decides from two readings of the engine's total whether a statement
changed rows, and then asks the engine how many. The engine counts in signed
words, so its total turns negative after enough changes, and negative readings
all count as none. The theorems say for which readings the reported count is the
one that the engine's counters call for, and that this count reaches the caller
of a run, a query or a prepared statement.
-/

namespace SqlBridge

/-- What the engine's counters read around one executed statement: the total before and after it,
and the count of its changes. -/
structure Readings where
  before : Int
  after : Int
  changes : Int

namespace Readings

/-- A count agrees with the readings if it is zero when the total stands still, and the engine's own
count, unless that is negative, when the total moves. -/
def Truthful (r : Readings) (count : Nat) : Prop :=
  (r.before = r.after → count = 0) ∧
    (r.before ≠ r.after → 0 ≤ r.changes → (count : Int) = r.changes)

/-- Rows change while the total moves between two readings that are not positive. -/
def Masked (r : Readings) : Prop :=
  r.before ≠ r.after ∧ r.before ≤ 0 ∧ r.after ≤ 0 ∧ 0 < r.changes

def reported (r : Readings) : Nat :=
  if changeCount r.after = changeCount r.before then 0 else changeCount r.changes

theorem changeCount_eq_iff (m n : Int) :
    changeCount m = changeCount n ↔ m = n ∨ (m ≤ 0 ∧ n ≤ 0) := by
  simp only [changeCount]
  omega

theorem natCast_changeCount {n : Int} (nonneg : 0 ≤ n) : (changeCount n : Int) = n :=
  Int.toNat_of_nonneg nonneg

theorem reported_of_masked {r : Readings} (masked : r.Masked) : r.reported = 0 := by
  obtain ⟨-, before, after, -⟩ := masked
  rw [reported, if_pos]
  exact (changeCount_eq_iff _ _).mpr (.inr ⟨after, before⟩)

/-- Only masked readings make a run give a wrong count. -/
theorem truthful_reported_iff_not_masked (r : Readings) : r.Truthful r.reported ↔ ¬ r.Masked := by
  constructor
  · intro truthful masked
    have zero := truthful.2 masked.1 (Int.le_of_lt masked.2.2.2)
    rw [reported_of_masked masked] at zero
    exact absurd masked.2.2.2 (by omega)
  · intro visible
    refine ⟨fun still => ?_, fun moved counted => ?_⟩
    · rw [reported, if_pos (by rw [still])]
    · rw [reported]
      split
      next hidden =>
        rcases (changeCount_eq_iff _ _).mp hidden with same | ⟨after, before⟩
        · exact absurd same.symm moved
        · have unchanged : ¬0 < r.changes := fun rows => visible ⟨moved, before, after, rows⟩
          omega
      next => exact natCast_changeCount counted

theorem truthful_of_nonneg {r : Readings} (before : 0 ≤ r.before) (after : 0 ≤ r.after) :
    r.Truthful r.reported := by
  rw [truthful_reported_iff_not_masked]
  rintro ⟨moved, before', after', -⟩
  omega

end Readings

namespace Engine
variable {σ : Type} (eng : Engine σ) (h : Handle) (sql : String)

/-- The engine's counters around an execution: the calls that run the program, and then the count
of changes whatever the totals were. -/
def countersAround (e : Execution σ) : Readings :=
  let observed : StateM σ Readings := do
    let accepted ← eng.parameterCount h e.program
    let _ ← eng.bindFrom h e.program sql accepted 1 e.params
    let _ ← eng.columns h e.program
    let before ← eng.totalChanges h
    let _ ← eng.step h e.program
    let after ← eng.totalChanges h
    return ⟨before, after, ← eng.changes h⟩
  (observed e.start).1

variable {eng h sql}

theorem changes_of_runProgram {program : Program} {params : List Value} {s s' : σ}
    {result : RunResult}
    (ran : eng.runProgram h program sql params s = (.ok result, s')) :
    result.changes = (eng.countersAround h sql ⟨program, params, s, result⟩).reported := by
  obtain ⟨accepted, s₁, s₂, described, s₃, before, s₄, rows, s₅, after, s₆, counted, bound, shown,
    first, stepped, second, -, -, changes⟩ := runProgram_ok ran
  rw [changes]
  simp only [countersAround, bind_apply, counted, bound, shown, first, stepped, second]
  rfl

/-- The count of an executed statement agrees with its readings unless they are masked. -/
theorem truthful_iff_of_runProgram {program : Program} {params : List Value} {s s' : σ}
    {result : RunResult}
    (ran : eng.runProgram h program sql params s = (.ok result, s')) :
    (eng.countersAround h sql ⟨program, params, s, result⟩).Truthful result.changes ↔
      ¬(eng.countersAround h sql ⟨program, params, s, result⟩).Masked := by
  rw [changes_of_runProgram ran]
  exact Readings.truthful_reported_iff_not_masked _

theorem Executes.truthful_iff {params : List Value} {offset : Nat} {s s' : σ}
    {done : List (Execution σ)} (executes : Executes eng h sql params offset s done s') :
    ∀ e ∈ done, (eng.countersAround h sql e).Truthful e.result.changes ↔
      ¬(eng.countersAround h sql e).Masked := by
  induction executes with
  | finished past => simp
  | blank inside compiled nothing rest ih => exact ih
  | statement inside compiled found executed rest ih =>
    intro e he
    rcases List.mem_cons.mp he with rfl | he
    · exact truthful_iff_of_runProgram executed
    · exact ih e he

end Engine

namespace Readings

def deletion : String := "DELETE FROM t"

def seen (c : Readings) : RecordedRun := ⟨0, [], [], none, c.before, c.after, c.changes⟩

/-- An engine at rest that is going to show these readings around the statement. -/
def recorded (c : Readings) : Recording := .ofEvents [.compiled 13 c.seen]

def compiled (c : Readings) : Recording := { recorded c with
  events := []
  programs := [c.seen]
  running := some c.seen }

def execution (c : Readings) : Execution Recording :=
  ⟨⟨0⟩, [], c.compiled, ⟨.empty, [], c.reported⟩⟩

theorem runProgram_compiled (c : Readings) (h : Handle) (sql : String) :
    Recording.engine.runProgram h ⟨0⟩ sql [] c.compiled =
      (.ok c.execution.result, { c.compiled with stepped := true }) := by
  rw [execution, reported]
  change (if changeCount c.after = changeCount c.before then pure (.ok ⟨.empty, [], 0⟩)
    else do return .ok ⟨.empty, [], changeCount (← Recording.engine.changes h)⟩ :
      StateM Recording (Except Error RunResult)) { c.compiled with stepped := true } = _
  split <;> rfl

theorem executes_recorded (c : Readings) (h : Handle) :
    ∃ s', Recording.engine.Executes h deletion [] 0 c.recorded [c.execution] s' := by
  have past : deletion.utf8ByteSize ≤ Engine.offsetAfter deletion 0 ⟨some ⟨0⟩, some 13⟩ := by
    decide
  exact ⟨_, .statement (by decide) rfl rfl (c.runProgram_compiled h _) (.finished past)⟩

theorem countersAround_execution (c : Readings) (h : Handle) :
    Recording.engine.countersAround h deletion c.execution = c :=
  rfl

/-- There is a run for any readings of the counters. -/
theorem run_recorded (c : Readings) (h : Handle) :
    ∃ s', Recording.engine.run h deletion [] c.recorded = (.ok c.execution.result, s') := by
  obtain ⟨s', executes⟩ := c.executes_recorded h
  refine ⟨s', ?_⟩
  rw [Engine.run, show hasNul deletion = false by decide]
  exact executes.runFrom .empty

end Readings
end SqlBridge
