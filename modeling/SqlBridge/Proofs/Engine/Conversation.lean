import SqlBridge.Proofs.Engine.Calls
import SqlBridge.Proofs.Engine.Execution

/-! # Conversations with the engine

A conversation lists the calls that are made of an engine, each with its answer.
An observed engine writes its conversation down and answers as before. What is
said while one statement is executed is given here in full: how its parameters
are bound, and how it is stepped or why not.
-/

namespace SqlBridge
variable {σ α β : Type}

abbrev Call.Answer : Call → Type
  | .connect _ _ => Except Failure Handle
  | .setBusyTimeout _ _ | .close _ | .finalize _ _ => Unit
  | .defineText _ _ _ => Except Int Unit
  | .execute _ _ => Except Failure Unit
  | .compile _ _ _ => Except Int Compilation
  | .parameterCount _ _ => Nat
  | .bind _ _ _ _ => Except Int Unit
  | .columns _ _ => List (String × Option String)
  | .step _ _ => Stepping
  | .changes _ | .totalChanges _ => Int
  | .lastRowId _ => Int64
  | .autocommit _ => Bool
  | .lastFailure _ => Failure
  | .version => String

abbrev Exchange := (call : Call) × call.Answer

namespace Exchange

def compilation? : Exchange → Option (Nat × Except Int Compilation)
  | ⟨.compile _ _ offset, answer⟩ => some (offset, answer)
  | _ => none

def isBinding : Exchange → Bool
  | ⟨.bind _ _ _ _, _⟩ => true
  | _ => false

def isStepping : Exchange → Bool
  | ⟨.step _ _, _⟩ => true
  | _ => false

end Exchange

/-- A call that also writes down what it was answered. -/
def heard (call : Call) (act : StateM σ call.Answer) : StateM (σ × List Exchange) call.Answer :=
  fun p => ((act p.1).1, (act p.1).2, p.2 ++ [⟨call, (act p.1).1⟩])

/-- The engine that writes its conversation down. -/
def Engine.observed (eng : Engine σ) : Engine (σ × List Exchange) where
  connect path flags := heard (.connect path flags) (eng.connect path flags)
  setBusyTimeout h limit := heard (.setBusyTimeout h limit) (eng.setBusyTimeout h limit)
  defineText h name value := heard (.defineText h name value) (eng.defineText h name value)
  close h := heard (.close h) (eng.close h)
  execute h sql := heard (.execute h sql) (eng.execute h sql)
  compile h sql offset := heard (.compile h sql offset) (eng.compile h sql offset)
  parameterCount h p := heard (.parameterCount h p) (eng.parameterCount h p)
  bind h p index cell := heard (.bind h p index cell) (eng.bind h p index cell)
  columns h p := heard (.columns h p) (eng.columns h p)
  step h p := heard (.step h p) (eng.step h p)
  finalize h p := heard (.finalize h p) (eng.finalize h p)
  changes h := heard (.changes h) (eng.changes h)
  totalChanges h := heard (.totalChanges h) (eng.totalChanges h)
  lastRowId h := heard (.lastRowId h) (eng.lastRowId h)
  autocommit h := heard (.autocommit h) (eng.autocommit h)
  lastFailure h := heard (.lastFailure h) (eng.lastFailure h)
  version := heard .version eng.version

/-- From the state on, the observed program does what the program does, and says this. -/
def Talks (observed : StateM (σ × List Exchange) α) (program : StateM σ α) (s : σ)
    (said : List Exchange) : Prop :=
  ∀ log, observed (s, log) = ((program s).1, (program s).2, log ++ said)

namespace Talks

theorem silent (a : α) (s : σ) : Talks (pure a) (pure a) s [] := by
  intro log
  rw [List.append_nil]
  rfl

theorem call (call : Call) (act : StateM σ call.Answer) (s : σ) :
    Talks (heard call act) act s [⟨call, (act s).1⟩] :=
  fun _ => rfl

theorem bind {observed : StateM (σ × List Exchange) α} {program : StateM σ α} {s s' : σ} {a : α}
    {observed' : α → StateM (σ × List Exchange) β} {program' : α → StateM σ β}
    {said said' : List Exchange} (first : Talks observed program s said)
    (result : program s = (a, s')) (second : Talks (observed' a) (program' a) s' said') :
    Talks (observed >>= observed') (program >>= program') s (said ++ said') := by
  intro log
  rw [Engine.bind_apply, Engine.bind_apply, first, result, second, List.append_assoc]

end Talks

namespace Engine
variable (h : Handle) (sql : String) (p : Program)

def recorded (f : Failure) : Error := engineError f.code f.message sql

def tooLongError : Error := engineError tooBigCode "statement too long" sql

def rangeError : Error := engineError rangeCode "column index out of range" sql

/-- Cells are bound with success to the positions from `i` on. -/
def boundFrom (i : Nat) (cells : List Cell) : List Exchange :=
  (cells.zipIdx i).map fun cell => ⟨.bind h p cell.2 cell.1, .ok ()⟩

/-- How binding ends at position `i` with the values that are left: all are bound, or there is no such
position, or the next value is too long for a cell, or the engine refuses its cell. -/
inductive BindingEnds (accepted i : Nat) : List Value → List Exchange → Except Error Unit → Prop where
  | complete : BindingEnds accepted i [] [] (.ok ())
  | tooMany {v : Value} {vs : List Value} (beyond : accepted < i) :
      BindingEnds accepted i (v :: vs) [] (.error (rangeError sql))
  | tooLong {v : Value} {vs : List Value} (within : i ≤ accepted) (long : Cell.ofValue? v = none)
      (f : Failure) :
      BindingEnds accepted i (v :: vs) [⟨.lastFailure h, f⟩] (.error (recorded sql f))
  | refused {v : Value} {vs : List Value} {cell : Cell} (within : i ≤ accepted)
      (fits : Cell.ofValue? v = some cell) (code : Int) (f : Failure) :
      BindingEnds accepted i (v :: vs) [⟨.bind h p i cell, .error code⟩, ⟨.lastFailure h, f⟩]
        (.error (recorded sql f))

/-- Some first values are bound to the positions from `i` on, and there it ends. -/
def Binds (accepted i : Nat) (params : List Value) (said : List Exchange)
    (outcome : Except Error Unit) : Prop :=
  ∃ taken left cells ending, params = taken ++ left ∧ taken.map Cell.ofValue? = cells.map some ∧
    (cells = [] ∨ i + cells.length ≤ accepted + 1) ∧ said = boundFrom h p i cells ++ ending ∧
    BindingEnds h sql p accepted (i + cells.length) left ending outcome

variable {h sql p}

theorem Binds.of_end {accepted i : Nat} {params : List Value} {said : List Exchange}
    {outcome : Except Error Unit} (ends : BindingEnds h sql p accepted i params said outcome) :
    Binds h sql p accepted i params said outcome :=
  ⟨[], params, [], said, rfl, rfl, .inl rfl, rfl, ends⟩

theorem Binds.cons {accepted i : Nat} {v : Value} {cell : Cell} {params : List Value}
    {said : List Exchange} {outcome : Except Error Unit} (within : i ≤ accepted)
    (fits : Cell.ofValue? v = some cell)
    (rest : Binds h sql p accepted (i + 1) params said outcome) :
    Binds h sql p accepted i (v :: params) (⟨.bind h p i cell, .ok ()⟩ :: said) outcome := by
  obtain ⟨taken, left, cells, ending, split, same, last, rfl, ends⟩ := rest
  have next : i + (cell :: cells).length = i + 1 + cells.length := by
    rw [List.length_cons]
    omega
  refine ⟨v :: taken, left, cell :: cells, ending, by rw [split]; rfl, by simp [fits, same], .inr ?_,
    rfl, next ▸ ends⟩
  rcases last with rfl | last
  · simpa using within
  · omega

variable (h sql p) (eng : Engine σ)

theorem recordedError_talks (s : σ) :
    Talks (eng.observed.recordedError h sql) (eng.recordedError h sql) s
      [⟨.lastFailure h, (eng.lastFailure h s).1⟩] :=
  Talks.bind (.call (.lastFailure h) (eng.lastFailure h) s) rfl (.silent _ _)

theorem giveUp_talks (s : σ) :
    Talks (do return .error (← eng.observed.recordedError h sql))
      (do return (.error (← eng.recordedError h sql) : Except Error α)) s
      [⟨.lastFailure h, (eng.lastFailure h s).1⟩] :=
  (recordedError_talks h sql eng s).bind rfl (.silent _ _)

/-- Values are bound one by one, up to the first that cannot be. -/
theorem bindFrom_talks (accepted : Nat) (params : List Value) (i : Nat) (s : σ) :
    ∃ said, Talks (eng.observed.bindFrom h p sql accepted i params)
        (eng.bindFrom h p sql accepted i params) s said ∧
      Binds h sql p accepted i params said (eng.bindFrom h p sql accepted i params s).1 := by
  induction params generalizing i s with
  | nil => exact ⟨[], .silent _ _, .of_end .complete⟩
  | cons v vs ih =>
    simp only [bindFrom]
    by_cases beyond : accepted < i
    · simp only [beyond, if_true]
      exact ⟨[], .silent _ _, .of_end (.tooMany beyond)⟩
    · have within : i ≤ accepted := Nat.not_lt.mp beyond
      simp only [beyond, if_false]
      cases fits : Cell.ofValue? v with
      | none =>
        exact ⟨_, giveUp_talks h sql eng s, .of_end (.tooLong within fits (eng.lastFailure h s).1)⟩
      | some cell =>
        have bound := Talks.call (.bind h p i cell) (eng.bind h p i cell) s
        simp only [bind_apply]
        rcases answered : eng.bind h p i cell s with ⟨code | _, s₁⟩
        · rw [answered] at bound
          exact ⟨_, bound.bind answered (giveUp_talks h sql eng s₁),
            .of_end (.refused within fits code (eng.lastFailure h s₁).1)⟩
        · obtain ⟨said, talks, binds⟩ := ih (i + 1) s₁
          rw [answered] at bound
          exact ⟨_, bound.bind answered talks, .cons within fits binds⟩

/-- The changes of a statement are asked for if the totals before and after it count differently. -/
inductive Counts (before after : Int) : List Exchange → Nat → Prop where
  | still (same : changeCount after = changeCount before) : Counts before after [] 0
  | moved (differ : changeCount after ≠ changeCount before) (changes : Int) :
      Counts before after [⟨.changes h, changes⟩] (changeCount changes)

def describedColumns (described : List (String × Option String)) : Columns :=
  .ofTypes (described.map Prod.fst) (described.map Prod.snd)

/-- What is said while a statement is executed, and what comes of it. A statement whose parameters
are not all bound is not stepped, and any other is stepped once. -/
inductive Executing (params : List Value) : List Exchange → Except Error RunResult → Prop where
  | unbound {accepted : Nat} {said : List Exchange} {e : Error}
      (binds : Binds h sql p accepted 1 params said (.error e)) :
      Executing params (⟨.parameterCount h p, accepted⟩ :: said) (.error e)
  | failed {accepted : Nat} {said : List Exchange}
      (binds : Binds h sql p accepted 1 params said (.ok ()))
      (described : List (String × Option String)) (before : Int) (rows : List (Nat → Cell))
      (code : Int) (f : Failure) :
      Executing params (⟨.parameterCount h p, accepted⟩ :: (said ++
          [⟨.columns h p, described⟩, ⟨.totalChanges h, before⟩, ⟨.step h p, ⟨rows, some code⟩⟩,
            ⟨.lastFailure h, f⟩]))
        (.error (recorded sql f))
  | completed {accepted : Nat} {said counted : List Exchange}
      (binds : Binds h sql p accepted 1 params said (.ok ()))
      (described : List (String × Option String)) (before : Int) (rows : List (Nat → Cell))
      (after : Int) {changes : Nat} (counts : Counts h before after counted changes) :
      Executing params (⟨.parameterCount h p, accepted⟩ :: (said ++
          ([⟨.columns h p, described⟩, ⟨.totalChanges h, before⟩, ⟨.step h p, ⟨rows, none⟩⟩,
            ⟨.totalChanges h, after⟩] ++ counted)))
        (.ok ⟨describedColumns described, rows.map (readRow (describedColumns described)), changes⟩)

/-- How an execution ends after the second reading of the total. -/
def countChanges (before after : Int) (result : Nat → RunResult) :
    StateM σ (Except Error RunResult) :=
  if changeCount after = changeCount before then return .ok (result 0)
  else return .ok (result (changeCount (← eng.changes h)))

theorem countChanges_talks (before after : Int) (result : Nat → RunResult) (s : σ) :
    ∃ counted changes, Talks (countChanges h eng.observed before after result)
        (countChanges h eng before after result) s counted ∧
      Counts h before after counted changes ∧
      (countChanges h eng before after result s).1 = .ok (result changes) := by
  by_cases same : changeCount after = changeCount before
  · simp only [countChanges, same, if_true]
    exact ⟨[], 0, .silent _ _, .still same, rfl⟩
  · simp only [countChanges, same, if_false]
    exact ⟨_, _, Talks.bind (.call (.changes h) (eng.changes h) s) rfl (.silent _ _),
      .moved same (eng.changes h s).1, rfl⟩

theorem runProgram_talks (params : List Value) (s : σ) :
    ∃ said, Talks (eng.observed.runProgram h p sql params) (eng.runProgram h p sql params) s said ∧
      Executing h sql p params said (eng.runProgram h p sql params s).1 := by
  have counted := Talks.call (.parameterCount h p) (eng.parameterCount h p) s
  rcases accepts : eng.parameterCount h p s with ⟨accepted, s₁⟩
  rw [accepts] at counted
  obtain ⟨said, bound, binds⟩ := bindFrom_talks h sql p eng accepted params 1 s₁
  rw [runProgram, runProgram, bind_apply, accepts, bind_apply]
  rcases outcome : eng.bindFrom h p sql accepted 1 params s₁ with ⟨e | _, s₂⟩
  · rw [outcome] at binds
    exact ⟨_, counted.bind accepts (bound.bind outcome (.silent _ _)), by simpa using .unbound binds⟩
  · rw [outcome] at binds
    have shown := Talks.call (.columns h p) (eng.columns h p) s₂
    rcases shows : eng.columns h p s₂ with ⟨described, s₃⟩
    have first := Talks.call (.totalChanges h) (eng.totalChanges h) s₃
    rcases reads : eng.totalChanges h s₃ with ⟨before, s₄⟩
    have stepped := Talks.call (.step h p) (eng.step h p) s₄
    rcases steps : eng.step h p s₄ with ⟨⟨rows, failure⟩, s₅⟩
    rw [shows] at shown
    rw [reads] at first
    rw [steps] at stepped
    simp only [bind_apply, shows, reads, steps]
    cases failure with
    | some code =>
      refine ⟨_, counted.bind accepts (bound.bind outcome (shown.bind shows (first.bind reads
        (stepped.bind steps (giveUp_talks h sql eng s₅))))), ?_⟩
      exact .failed binds described before rows code (eng.lastFailure h s₅).1
    | none =>
      have second := Talks.call (.totalChanges h) (eng.totalChanges h) s₅
      rcases rereads : eng.totalChanges h s₅ with ⟨after, s₆⟩
      rw [rereads] at second
      obtain ⟨counting, changes, asked, counts, result⟩ := countChanges_talks h eng before after
        (⟨describedColumns described, rows.map (readRow (describedColumns described)), ·⟩) s₆
      refine ⟨_, counted.bind accepts (bound.bind outcome (shown.bind shows (first.bind reads
        (stepped.bind steps (second.bind rereads asked))))), ?_⟩
      simp only [bind_apply, rereads]
      exact result ▸ .completed binds described before rows after counts

/-- What is said while a statement is compiled, and what comes of it. -/
inductive Compiling (offset : Nat) : List Exchange → Except Error Compilation → Prop where
  | unsent (long : maxTextLength < sql.utf8ByteSize - offset) :
      Compiling offset [] (.error (tooLongError sql))
  | failed (fits : sql.utf8ByteSize - offset ≤ maxTextLength) (code : Int) (f : Failure) :
      Compiling offset [⟨.compile h sql offset, .error code⟩, ⟨.lastFailure h, f⟩]
        (.error (recorded sql f))
  | compiled (fits : sql.utf8ByteSize - offset ≤ maxTextLength) (c : Compilation) :
      Compiling offset [⟨.compile h sql offset, .ok c⟩] (.ok c)

theorem compileAt_talks (offset : Nat) (s : σ) :
    ∃ said, Talks (eng.observed.compileAt h sql offset) (eng.compileAt h sql offset) s said ∧
      Compiling h sql offset said (eng.compileAt h sql offset s).1 := by
  rw [compileAt, compileAt]
  by_cases long : maxTextLength < sql.utf8ByteSize - offset
  · simp only [long, if_true]
    exact ⟨[], .silent _ _, .unsent long⟩
  · have fits := Nat.not_lt.mp long
    have asked := Talks.call (.compile h sql offset) (eng.compile h sql offset) s
    simp only [long, if_false, bind_apply]
    rcases answered : eng.compile h sql offset s with ⟨code | c, s₁⟩
    · rw [answered] at asked
      exact ⟨_, asked.bind answered (giveUp_talks h sql eng s₁),
        .failed fits code (eng.lastFailure h s₁).1⟩
    · rw [answered] at asked
      exact ⟨_, asked.bind answered (.silent _ _), .compiled fits c⟩

end Engine
end SqlBridge
