import SqlBridge.Proofs.Engine.Conversation
import SqlBridge.Proofs.Engine.Failure

/-! # The statement loop

A run talks to the engine in turns. A turn compiles what stands at an offset and
then deals with the statement that was found there, if any. The next turn begins
where the compiled part ends, and the first turn that fails is the last one. A
text that is only compiled is gone through in turns as well, with another manner
of dealing with a statement.
-/

namespace SqlBridge.Engine
variable {σ : Type}

/-- A compilation, what is said up to the next one, and how it ends: with an error, with nothing or
with the result of a statement. -/
structure Turn where
  offset : Nat
  compiled : Except Int Compilation
  talk : List Exchange
  ending : Except Error (Option RunResult)

/-- A way of dealing with a statement that was found while these parameters were left. -/
abbrev Manner := List Value → Program → List Exchange → Except Error (Option RunResult) → Prop

/-- A run executes what it finds. -/
def executes (h : Handle) (sql : String) : Manner := fun params p talk ending =>
  ∃ outcome, Executing h sql p params talk outcome ∧ ending = outcome.map some

/-- A check drops what it finds. -/
def drops : Manner := fun _ _ talk ending => talk = [] ∧ ending = .ok none

variable (h : Handle) (sql : String)

namespace Turn

def said (t : Turn) : List Exchange := ⟨.compile h sql t.offset, t.compiled⟩ :: t.talk

def program? (t : Turn) : Option Program := t.compiled.toOption.bind Compilation.program

def result? (t : Turn) : Option RunResult := t.ending.toOption.join

inductive Goes (manner : Manner) (params : List Value) : Turn → Prop where
  | uncompiled (offset : Nat) (code : Int) (f : Failure) :
      Goes manner params ⟨offset, .error code, [⟨.lastFailure h, f⟩], .error (recorded sql f)⟩
  | blank (offset : Nat) (used : Option Nat) :
      Goes manner params ⟨offset, .ok ⟨none, used⟩, [], .ok none⟩
  | statement (offset : Nat) (p : Program) (used : Option Nat) {talk : List Exchange}
      {ending : Except Error (Option RunResult)} (dealt : manner params p talk ending) :
      Goes manner params ⟨offset, .ok ⟨some p, used⟩, talk ++ [⟨.finalize h p, ()⟩], ending⟩

end Turn

/-- The parameters that are left after a turn: the first statement takes them all. -/
def left (params : List Value) (t : Turn) : List Value := if t.program?.isSome then [] else params

/-- What stands at the offset is handed to the engine. -/
def Sent (offset : Nat) : Prop :=
  offset < sql.utf8ByteSize ∧ sql.utf8ByteSize - offset ≤ maxTextLength

/-- The turns from an offset on, and what they come to; `result` is that of the last statement before. -/
inductive Turns (manner : Manner) :
    List Value → Nat → RunResult → List Turn → Except Error RunResult → Prop where
  | finished {params : List Value} {offset : Nat} {result : RunResult}
      (past : sql.utf8ByteSize ≤ offset) : Turns manner params offset result [] (.ok result)
  | unsent {params : List Value} {offset : Nat} {result : RunResult}
      (inside : offset < sql.utf8ByteSize) (long : maxTextLength < sql.utf8ByteSize - offset) :
      Turns manner params offset result [] (.error (tooLongError sql))
  | failed {params : List Value} {result : RunResult} {t : Turn} {e : Error}
      (sent : Sent sql t.offset) (goes : t.Goes h sql manner params) (ending : t.ending = .error e) :
      Turns manner params t.offset result [t] (.error e)
  | passed {params : List Value} {result : RunResult} {t : Turn} {c : Compilation}
      {r? : Option RunResult} {turns : List Turn} {outcome : Except Error RunResult}
      (sent : Sent sql t.offset) (goes : t.Goes h sql manner params) (compiled : t.compiled = .ok c)
      (ending : t.ending = .ok r?)
      (rest : Turns manner (left params t) (offsetAfter sql t.offset c) (r?.getD result) turns
        outcome) :
      Turns manner params t.offset result (t :: turns) outcome

/-- A piece of a text is compiled and dealt with. It goes in turns if everything that can be compiled is
dealt with in a turn and the turns after it. -/
theorem compileAt_turns {α : Type} {manner : Manner} {params : List Value} {offset : Nat}
    {result : RunResult} (eng : Engine σ) (inside : offset < sql.utf8ByteSize)
    {observed : Compilation → StateM (σ × List Exchange) (Except Error α)}
    {deal : Compilation → StateM σ (Except Error α)} (shown : Except Error α → Except Error RunResult)
    (raises : ∀ e, shown (.error e) = .error e)
    (dealt : ∀ c s, Sent sql offset → ∃ t turns, t.offset = offset ∧ t.compiled = .ok c ∧
      Talks (observed c) (deal c) s (t.talk ++ turns.flatMap (Turn.said h sql)) ∧
      Turns h sql manner params offset result (t :: turns) (shown (deal c s).1))
    (s : σ) :
    let piece : StateM σ (Except Error α) := eng.compileAt h sql offset >>= fun
      | .error e => pure (.error e)
      | .ok c => deal c
    ∃ turns, Talks (eng.observed.compileAt h sql offset >>= fun
          | .error e => pure (.error e)
          | .ok c => observed c) piece s (turns.flatMap (Turn.said h sql)) ∧
      Turns h sql manner params offset result turns (shown (piece s).1) := by
  obtain ⟨said, asked, compiling⟩ := compileAt_talks h sql eng offset s
  simp only [bind_apply]
  rcases compiled : eng.compileAt h sql offset s with ⟨outcome, s₁⟩
  rw [compiled] at compiling
  cases compiling with
  | unsent long =>
    refine ⟨[], asked.bind compiled (.silent _ _), ?_⟩
    change Turns h sql manner params offset result [] (shown (.error _))
    rw [raises]
    exact .unsent inside long
  | failed fits code f =>
    refine ⟨[⟨offset, .error code, [⟨.lastFailure h, f⟩], .error (recorded sql f)⟩],
      asked.bind compiled (.silent _ _), ?_⟩
    change Turns h sql manner params offset result _ (shown (.error _))
    rw [raises]
    exact .failed ⟨inside, fits⟩ (.uncompiled offset code f) rfl
  | compiled fits c =>
    obtain ⟨t, turns, rfl, found, talks, go⟩ := dealt c s₁ ⟨inside, fits⟩
    refine ⟨t :: turns, ?_, go⟩
    rw [List.flatMap_cons, Turn.said, found]
    exact asked.bind compiled talks

theorem runFrom_talks (eng : Engine σ) (params : List Value) (offset : Nat) (result : RunResult)
    (s : σ) :
    ∃ turns, Talks (eng.observed.runFrom h sql params offset result)
        (eng.runFrom h sql params offset result) s (turns.flatMap (Turn.said h sql)) ∧
      Turns h sql (executes h sql) params offset result turns
        (eng.runFrom h sql params offset result s).1 := by
  rcases Nat.lt_or_ge offset sql.utf8ByteSize with inside | past
  · rw [runFrom, runFrom, if_pos inside, if_pos inside]
    apply compileAt_turns h sql eng inside id (fun _ => rfl)
    intro c s₁ sent
    have further := lt_offsetAfter sql offset c
    obtain ⟨program, used⟩ := c
    cases program with
    | none =>
      obtain ⟨turns, talks, rest⟩ :=
        runFrom_talks eng params (offsetAfter sql offset ⟨none, used⟩) result s₁
      exact ⟨⟨offset, .ok ⟨none, used⟩, [], .ok none⟩, turns, rfl, rfl, talks,
        .passed sent (.blank offset used) rfl rfl rest⟩
    | some p =>
      obtain ⟨talk, executed, executing⟩ := runProgram_talks h sql p eng params s₁
      rcases ran : eng.runProgram h p sql params s₁ with ⟨outcome, s₂⟩
      have finalized := Talks.call (.finalize h p) (eng.finalize h p) s₂
      rw [ran] at executing
      have goes : Turn.Goes h sql (executes h sql) params ⟨offset, .ok ⟨some p, used⟩,
          talk ++ [⟨.finalize h p, ()⟩], outcome.map some⟩ :=
        .statement offset p used ⟨outcome, executing, rfl⟩
      refine ⟨⟨offset, .ok ⟨some p, used⟩, talk ++ [⟨.finalize h p, ()⟩], outcome.map some⟩, ?_⟩
      simp only [bind_apply, ran, List.append_assoc]
      cases outcome with
      | error e =>
        exact ⟨[], trivial, trivial, executed.bind ran (finalized.bind rfl (.silent _ _)),
          .failed sent goes rfl⟩
      | ok next =>
        obtain ⟨turns, talks, rest⟩ :=
          runFrom_talks eng [] (offsetAfter sql offset ⟨some p, used⟩) next (eng.finalize h p s₂).2
        exact ⟨turns, trivial, trivial, executed.bind ran (finalized.bind rfl talks),
          .passed sent goes rfl rfl rest⟩
  · refine ⟨[], fun log => ?_, ?_⟩
    · rw [runFrom_past past, runFrom_past past]
      simp
    · rw [runFrom_past past]
      exact .finished past
termination_by sql.utf8ByteSize - offset

/-- A check goes in turns that drop every statement. -/
theorem compileFrom_talks (eng : Engine σ) (params : List Value) (offset : Nat) (result : RunResult)
    (s : σ) :
    ∃ turns, Talks (eng.observed.compileFrom h sql offset) (eng.compileFrom h sql offset) s
        (turns.flatMap (Turn.said h sql)) ∧
      Turns h sql drops params offset result turns
        ((eng.compileFrom h sql offset s).1.map fun _ => result) := by
  rcases Nat.lt_or_ge offset sql.utf8ByteSize with inside | past
  · rw [compileFrom, compileFrom, if_pos inside, if_pos inside]
    apply compileAt_turns h sql eng inside (Except.map fun _ => result) (fun _ => rfl)
    intro c s₁ sent
    have further := lt_offsetAfter sql offset c
    obtain ⟨program, used⟩ := c
    cases program with
    | none =>
      obtain ⟨turns, talks, rest⟩ :=
        compileFrom_talks eng params (offsetAfter sql offset ⟨none, used⟩) result s₁
      exact ⟨⟨offset, .ok ⟨none, used⟩, [], .ok none⟩, turns, rfl, rfl, talks,
        .passed sent (.blank offset used) rfl rfl rest⟩
    | some p =>
      have finalized := Talks.call (.finalize h p) (eng.finalize h p) s₁
      obtain ⟨turns, talks, rest⟩ := compileFrom_talks eng [] (offsetAfter sql offset ⟨some p, used⟩)
        result (eng.finalize h p s₁).2
      have goes : Turn.Goes h sql drops params ⟨offset, .ok ⟨some p, used⟩,
          [] ++ [⟨.finalize h p, ()⟩], .ok none⟩ :=
        .statement offset p used ⟨rfl, rfl⟩
      exact ⟨_, turns, rfl, rfl, finalized.bind rfl talks, .passed sent goes rfl rfl rest⟩
  · refine ⟨[], fun log => ?_, ?_⟩
    · rw [compileFrom_past past, compileFrom_past past]
      simp
    · rw [compileFrom_past past]
      exact .finished past
termination_by sql.utf8ByteSize - offset

end SqlBridge.Engine
