import SqlBridge.Engine.Recording
import SqlBridge.Proofs.Engine.Turn

/-! # What a failed binding reports

A value is not bound if its position is beyond those that the statement accepts, if
it is a text that is too long for a cell, or if the engine refuses its cell. The
run ends there, before any statement is stepped. The error of a position has a code
of its own. In the other two cases the error is the one on record, and only the
engine has put it there: a text that is too long never got to the engine.
-/

namespace SqlBridge.Engine
variable {σ : Type} (eng : Engine σ) (h : Handle) (sql : String) (p : Program)

/-- After a call that binds nothing, the result code of the call is on record. -/
def NotesBindings : Prop :=
  ∀ h p i cell s code s', eng.bind h p i cell s = (.error code, s') →
    (eng.lastFailure h s').1.code = code

def bindValue (accepted i : Nat) (v : Value) : StateM σ (Except Int Unit) :=
  if accepted < i then pure (.error rangeCode)
  else
    match Cell.ofValue? v with
    | none => pure (.error tooBigCode)
    | some cell => eng.bind h p i cell

/-- Of values for the positions from `i` on, the one for the position `j` is the first that is not bound,
with this result code and in this state. -/
inductive FailsToBind (accepted : Nat) : Nat → List Value → σ → Nat → Value → Int → σ → Prop where
  | here {i : Nat} {v : Value} {vs : List Value} {s s' : σ} {code : Int}
      (failed : eng.bindValue h p accepted i v s = (.error code, s')) :
      FailsToBind accepted i (v :: vs) s i v code s'
  | later {i j : Nat} {v w : Value} {vs : List Value} {s s₁ s' : σ} {code : Int}
      (bound : eng.bindValue h p accepted i v s = (.ok (), s₁))
      (rest : FailsToBind accepted (i + 1) vs s₁ j w code s') :
      FailsToBind accepted i (v :: vs) s j w code s'

/-- From an offset and a state on, the first statement of the text is compiled and leaves this state. -/
inductive ComesTo : Nat → σ → Program → σ → Prop where
  | here {offset : Nat} {s s₁ : σ} {c : Compilation} {p : Program}
      (inside : offset < sql.utf8ByteSize)
      (compiled : eng.compileAt h sql offset s = (.ok c, s₁)) (found : c.program = some p) :
      ComesTo offset s p s₁
  | blank {offset : Nat} {s s₁ s₂ : σ} {c : Compilation} {p : Program}
      (inside : offset < sql.utf8ByteSize)
      (compiled : eng.compileAt h sql offset s = (.ok c, s₁)) (nothing : c.program = none)
      (rest : ComesTo (offsetAfter sql offset c) s₁ p s₂) : ComesTo offset s p s₂

variable {eng h sql p} {accepted i j : Nat} {params : List Value} {w : Value} {code : Int}
  {s s₁ s₂ s' : σ} {e : Error}

def bindingError (eng : Engine σ) (h : Handle) (sql : String) (accepted j : Nat) (s : σ) : Error :=
  if accepted < j then rangeError sql else recorded sql (eng.lastFailure h s).1

theorem bindFrom_cons (sql : String) (accepted i : Nat) (v : Value) (vs : List Value) (s : σ) :
    eng.bindFrom h p sql accepted i (v :: vs) s =
      match eng.bindValue h p accepted i v s with
      | (.ok (), s₁) => eng.bindFrom h p sql accepted (i + 1) vs s₁
      | (.error _, s₁) =>
        (.error (bindingError eng h sql accepted i s₁),
          if accepted < i then s₁ else (eng.lastFailure h s₁).2) := by
  simp only [bindFrom, bindValue, bindingError]
  by_cases beyond : accepted < i
  · simp only [beyond, if_true]
    rfl
  · simp only [beyond, if_false]
    cases Cell.ofValue? v with
    | none => rfl
    | some cell =>
      simp only [bind_apply]
      rcases eng.bind h p i cell s with ⟨_ | _, s₁⟩ <;> rfl

theorem FailsToBind.bindFrom (sql : String)
    (fails : FailsToBind eng h p accepted i params s j w code s') :
    (eng.bindFrom h p sql accepted i params s).1 = .error (bindingError eng h sql accepted j s') := by
  induction fails with
  | here failed => rw [bindFrom_cons, failed]
  | later bound _ ih =>
    rw [bindFrom_cons, bound]
    exact ih

theorem FailsToBind.bindValue (fails : FailsToBind eng h p accepted i params s j w code s') :
    ∃ s₁, eng.bindValue h p accepted j w s₁ = (.error code, s') := by
  induction fails with
  | here failed => exact ⟨_, failed⟩
  | later _ _ ih => exact ih

/-- The code that is reported is the one that the binding failed with, unless a text is too long: then it
is the one that the engine had on record. -/
theorem FailsToBind.reports (sql : String) (notes : eng.NotesBindings)
    (fails : FailsToBind eng h p accepted i params s j w code s') :
    ∃ reported message, bindingError eng h sql accepted j s' = engineError reported message sql ∧
      (accepted < j → reported = code) ∧
      (∀ cell, Cell.ofValue? w = some cell → reported = code) ∧
      (j ≤ accepted → Cell.ofValue? w = none →
        code = tooBigCode ∧ reported = (eng.lastFailure h s').1.code) := by
  obtain ⟨s₁, failed⟩ := fails.bindValue
  rw [Engine.bindValue] at failed
  rw [Engine.bindingError]
  split at failed
  · next beyond =>
    cases failed
    rw [if_pos beyond]
    exact ⟨rangeCode, _, rfl, fun _ => rfl, fun _ _ => rfl, fun within => absurd beyond (by omega)⟩
  · next within =>
    rw [if_neg within]
    refine ⟨_, _, rfl, fun beyond => absurd beyond within, ?_, ?_⟩
    · intro cell fits
      rw [fits] at failed
      exact notes _ _ _ _ _ _ _ failed
    · intro _ long
      rw [long] at failed
      cases failed
      exact ⟨rfl, rfl⟩

theorem runProgram_unbound (counted : eng.parameterCount h p s = (accepted, s₁))
    (unbound : (eng.bindFrom h p sql accepted 1 params s₁).1 = .error e) :
    (eng.runProgram h p sql params s).1 = .error e ∧
      ∃ said, Talks (eng.observed.runProgram h p sql params) (eng.runProgram h p sql params) s said ∧
        said.countP Exchange.isStepping = 0 := by
  obtain ⟨said, talks, binds⟩ := bindFrom_talks h sql p eng accepted params 1 s₁
  have asked := Talks.call (.parameterCount h p) (eng.parameterCount h p) s
  rw [counted] at asked
  rcases bound : eng.bindFrom h p sql accepted 1 params s₁ with ⟨outcome, s₂⟩
  rw [bound] at unbound
  obtain rfl : outcome = .error e := unbound
  constructor
  · rw [runProgram, bind_apply, counted, bind_apply, bound]
    rfl
  · refine ⟨_, asked.bind counted (talks.bind bound (.silent _ _)), ?_⟩
    simpa [Exchange.isStepping] using binds.steppings

theorem compileAt_unstepped {offset : Nat} {c : Compilation}
    (compiled : eng.compileAt h sql offset s = (.ok c, s₁)) :
    ∃ said, (∀ log, eng.observed.compileAt h sql offset (s, log) = (.ok c, s₁, log ++ said)) ∧
      said.countP Exchange.isStepping = 0 := by
  obtain ⟨said, talks, compiling⟩ := compileAt_talks h sql eng offset s
  refine ⟨said, fun log => by rw [talks, compiled], ?_⟩
  rw [compiled] at compiling
  cases compiling with
  | compiled fits c => rfl

/-- Where the first statement fails the run fails, and nothing but that statement is stepped. -/
theorem ComesTo.fails {offset : Nat} (comes : ComesTo eng h sql offset s p s₁)
    (failed : (eng.runProgram h p sql params s₁).1 = .error e) {said : List Exchange}
    (talks : Talks (eng.observed.runProgram h p sql params) (eng.runProgram h p sql params) s₁ said)
    (result : RunResult) :
    (eng.runFrom h sql params offset result s).1 = .error e ∧
      ∃ said', Talks (eng.observed.runFrom h sql params offset result)
          (eng.runFrom h sql params offset result) s said' ∧
        said'.countP Exchange.isStepping = said.countP Exchange.isStepping := by
  induction comes with
  | @here offset s s₁ c p inside compiled found =>
    obtain ⟨said₀, asked, unstepped⟩ := compileAt_unstepped compiled
    rcases ran : eng.runProgram h p sql params s₁ with ⟨outcome, s₂⟩
    rw [ran] at failed
    obtain rfl : outcome = .error e := failed
    constructor
    · rw [runFrom_inside inside, compiled]
      simp only [found, ran]
    · refine ⟨said₀ ++ (said ++ [⟨.finalize h p, ()⟩]), fun log => ?_, ?_⟩
      · rw [runFrom_inside inside, runFrom_inside inside, asked, compiled]
        simp only [found, talks (log ++ said₀), ran]
        simp only [← List.append_assoc]
        rfl
      · simp [unstepped, Exchange.isStepping]
  | @blank offset s s₁ s₂ c p inside compiled nothing rest ih =>
    obtain ⟨said₀, asked, unstepped⟩ := compileAt_unstepped compiled
    obtain ⟨fails, said', talks', same⟩ := ih failed talks
    constructor
    · rw [runFrom_inside inside, compiled]
      simp only [nothing]
      exact fails
    · refine ⟨said₀ ++ said', fun log => ?_, ?_⟩
      · rw [runFrom_inside inside, runFrom_inside inside, asked, compiled]
        simp only [nothing]
        rw [talks', List.append_assoc]
      · rw [List.countP_append, unstepped, same, Nat.zero_add]

/-- Where a value is not bound the run fails and steps nothing. -/
theorem run_unbound (plain : hasNul sql = false) (comes : ComesTo eng h sql 0 s p s₁)
    (accepts : eng.parameterCount h p s₁ = (accepted, s₂))
    (fails : FailsToBind eng h p accepted 1 params s₂ j w code s') :
    (eng.run h sql params s).1 = .error (bindingError eng h sql accepted j s') ∧
      (eng.observed.run h sql params (s, [])).2.2.countP Exchange.isStepping = 0 := by
  obtain ⟨failed, said, talks, unstepped⟩ := runProgram_unbound accepts (fails.bindFrom sql)
  obtain ⟨raised, said', talks', same⟩ := comes.fails failed talks .empty
  rw [run, run, plain]
  constructor
  · exact raised
  · change (eng.observed.runFrom h sql params 0 .empty (s, [])).2.2.countP _ = 0
    rw [talks', List.nil_append, same, unstepped]

/-- Suppose that the engine has the result code on record after a binding that failed. For every text, all
parameters and every state, if the first value that is not bound fails with a result code, the run fails
with the error of some code on the text, and nothing is stepped. That code is the one of the binding, if the
position is beyond those that the statement accepts or if the value fits a cell. If the value is a text
that is too long, the binding failed with the code for this, and the run reports the code that was on
record before. -/
theorem failed_binding_reported (notes : eng.NotesBindings) (plain : hasNul sql = false)
    (comes : ComesTo eng h sql 0 s p s₁) (accepts : eng.parameterCount h p s₁ = (accepted, s₂))
    (fails : FailsToBind eng h p accepted 1 params s₂ j w code s') :
    ∃ reported message,
      (eng.run h sql params s).1 = .error (.query
        ⟨kindOfCode reported, some sql, stateOfCode reported, some reported, message⟩) ∧
      (eng.observed.run h sql params (s, [])).2.2.countP Exchange.isStepping = 0 ∧
      (accepted < j → reported = code) ∧
      (∀ cell, Cell.ofValue? w = some cell → reported = code) ∧
      (j ≤ accepted → Cell.ofValue? w = none →
        code = tooBigCode ∧ reported = (eng.lastFailure h s').1.code) := by
  obtain ⟨raised, unstepped⟩ := run_unbound plain comes accepts fails
  obtain ⟨reported, message, error, codes⟩ := fails.reports sql notes
  exact ⟨reported, message, raised.trans (congrArg _ error), unstepped, codes⟩

def selecting : Recording := .ofEvents [.compiled 8 ⟨1, [("?", none)], [], none, 0, 0, 0⟩]

/-- The played engine, but without memory for any parameter. -/
def exhausted : Engine Recording :=
  { Recording.engine with
    bind := fun _ _ _ _ r => (.error 7, { r with failure := ⟨7, "out of memory"⟩ }) }

/-- A text that fits is refused for want of memory, and the run reports this. -/
theorem failed_binding_reported_exhausted :
    ∃ s₁ s', exhausted.NotesBindings ∧ hasNul "SELECT ?" = false ∧
      ComesTo exhausted ⟨0⟩ "SELECT ?" 0 selecting ⟨0⟩ s₁ ∧
      exhausted.parameterCount ⟨0⟩ ⟨0⟩ s₁ = (1, s₁) ∧
      FailsToBind exhausted ⟨0⟩ ⟨0⟩ 1 1 [.text "x"] s₁ 1 (.text "x") 7 s' ∧
      ∃ message, (exhausted.run ⟨0⟩ "SELECT ?" [.text "x"] selecting).1 =
        .error (.query ⟨.database, some "SELECT ?", "HY000", some 7, message⟩) := by
  have notes : exhausted.NotesBindings := by
    intro h p i cell s code s' failed
    cases failed
    rfl
  have comes : ComesTo exhausted ⟨0⟩ "SELECT ?" 0 selecting ⟨0⟩
      (exhausted.compile ⟨0⟩ "SELECT ?" 0 selecting).2 := .here (by decide) rfl rfl
  have fails : FailsToBind exhausted ⟨0⟩ ⟨0⟩ 1 1 [.text "x"]
      (exhausted.compile ⟨0⟩ "SELECT ?" 0 selecting).2 1 (.text "x") 7 _ := .here rfl
  obtain ⟨reported, message, raised, -, -, fitting, -⟩ :=
    failed_binding_reported notes (by decide) comes rfl fails
  obtain rfl : reported = 7 := fitting _ rfl
  exact ⟨_, _, notes, by decide, comes, rfl, fails, message, raised⟩

theorem ofValue?_replicate {n : Nat} (long : maxTextLength < n) :
    Cell.ofValue? (.text (String.ofList (List.replicate n 'x'))) = none := by
  have length : (Text.Utf8.encode (List.replicate n 'x')).length = n := by
    have one : Char.utf8Size 'x' = 1 := by decide
    simp [Text.Utf8.encode, List.length_flatMap, one]
  rw [Cell.ofValue?, String.toList_ofList]
  simp only [length]
  rw [if_neg (Nat.not_le.mpr long)]

/-- A text of one byte too many is not bound, with the code for this, and the run reports that there was no
error. -/
theorem too_long_text_unreported :
    let v := Value.text (String.ofList (List.replicate 2147483648 'x'))
    ∃ s₁, Recording.engine.NotesBindings ∧
      ComesTo Recording.engine ⟨0⟩ "SELECT ?" 0 selecting ⟨0⟩ s₁ ∧
      Recording.engine.parameterCount ⟨0⟩ ⟨0⟩ s₁ = (1, s₁) ∧
      FailsToBind Recording.engine ⟨0⟩ ⟨0⟩ 1 1 [v] s₁ 1 v tooBigCode s₁ ∧
      stateOfCode tooBigCode = "22001" ∧
      (Recording.engine.run ⟨0⟩ "SELECT ?" [v] selecting).1 =
        .error (.query ⟨.database, some "SELECT ?", "HY000", some 0, "not an error"⟩) := by
  intro v
  have long : Cell.ofValue? v = none := ofValue?_replicate (by decide)
  have notes : Recording.engine.NotesBindings := by
    intro h p i cell s code s' failed
    cases failed
  have comes : ComesTo Recording.engine ⟨0⟩ "SELECT ?" 0 selecting ⟨0⟩
      (Recording.engine.compile ⟨0⟩ "SELECT ?" 0 selecting).2 := .here (by decide) rfl rfl
  have fails : FailsToBind Recording.engine ⟨0⟩ ⟨0⟩ 1 1 [v]
      (Recording.engine.compile ⟨0⟩ "SELECT ?" 0 selecting).2 1 v tooBigCode
      (Recording.engine.compile ⟨0⟩ "SELECT ?" 0 selecting).2 := by
    apply FailsToBind.here
    rw [bindValue, long]
    rfl
  exact ⟨_, notes, comes, rfl, fails, by decide, (run_unbound (by decide) comes rfl fails).1⟩

end SqlBridge.Engine
