import SqlBridge.Engine.Recording
import SqlBridge.Proofs.Engine.Turn

/-! # The course of a run

The turns of a run go on through the text, each from where the one before it
ended, so that there are no more of them than bytes. Every statement is executed
in its turn, the first one with the parameters, and the run comes to the result of
the last one or to the first failure. A check that is answered alike compiles at
the same offsets.
-/

namespace SqlBridge.Engine
variable {σ : Type}

variable (h : Handle) (sql : String)

def Turn.next (t : Turn) : Nat :=
  match t.compiled with
  | .ok c => offsetAfter sql t.offset c
  | .error _ => t.offset

def reached (offset : Nat) (turns : List Turn) : Nat := turns.foldl (fun _ t => t.next sql) offset

/-- What the turns of a run with these parameters do, and what they come to. -/
structure Course (params : List Value) (turns : List Turn) (outcome : Except Error RunResult) :
    Prop where
  inside : ∀ t ∈ turns, t.offset < sql.utf8ByteSize
  onward : turns.Pairwise fun t u => t.offset < u.offset
  length_le : turns.length ≤ sql.utf8ByteSize
  /-- A turn starts where the turns before it got to, with the parameters that they left, and ends
  well if another one follows. -/
  each : ∀ before t after, turns = before ++ t :: after →
    t.offset = reached sql 0 before ∧ t.Regular h sql (before.foldl left params) ∧
      (after ≠ [] → ∃ r?, t.ending = .ok r?)
  /-- A run that succeeds got to the end of the text and gives the result of its last statement. -/
  result : ∀ r, outcome = .ok r →
    sql.utf8ByteSize ≤ reached sql 0 turns ∧ (∀ t ∈ turns, ∃ r?, t.ending = .ok r?) ∧
      r = ((turns.filterMap Turn.result?).getLast?).getD .empty
  /-- A turn that fails is the last one, and its error is that of the run. -/
  fails : ∀ t ∈ turns, ∀ e, t.ending = .error e → turns.getLast? = some t ∧ outcome = .error e
  /-- If no turn fails, the run does only where the rest of the text is too long to be compiled. -/
  error : ∀ e, outcome = .error e →
    (∃ t ∈ turns, t.ending = .error e) ∨
      ((∀ t ∈ turns, ∃ r?, t.ending = .ok r?) ∧ e = tooLongError sql ∧
        maxTextLength < sql.utf8ByteSize - reached sql 0 turns)
  stops : StopsAtFailure h sql (turns.flatMap (Turn.said h sql)) (outcome = .error ·)

/-- A check beside a run of the same text. -/
structure Rehearsal (turns checked : List Turn) : Prop where
  compiles : (checked.flatMap (Turn.said h sql)).filterMap Exchange.compilation? =
    checked.map fun t => (t.offset, t.compiled)
  silent : ∀ x ∈ checked.flatMap (Turn.said h sql), ¬x.isBinding ∧ ¬x.isStepping
  /-- If both are answered alike, the check compiles where the run does, and further only if a
  statement of the run fails. -/
  same : (∀ t ∈ turns, ∀ u ∈ checked, t.offset = u.offset → t.compiled = u.compiled) →
    turns.map Turn.offset <+: checked.map Turn.offset ∧
      ((∀ t ∈ turns, t.program?.isSome → ∃ r?, t.ending = .ok r?) →
        turns.map Turn.offset = checked.map Turn.offset)

section Turns
variable {h sql} {manner : Manner} {params : List Value} {offset : Nat} {result : RunResult}
  {turns : List Turn} {outcome : Except Error RunResult}

theorem Turn.next_of_compiled {t : Turn} {c : Compilation} (compiled : t.compiled = .ok c) :
    t.next sql = offsetAfter sql t.offset c := by
  rw [next, compiled]

theorem Turns.offset_le (go : Turns h sql manner params offset result turns outcome) :
    ∀ t ∈ turns, offset ≤ t.offset ∧ t.offset < sql.utf8ByteSize := by
  induction go with
  | finished | unsent => simp
  | failed sent => simpa using sent.1
  | @passed params result t c r? turns outcome sent goes compiled ending rest ih =>
    intro u mem
    rcases List.mem_cons.mp mem with rfl | mem
    · exact ⟨Nat.le_refl _, sent.1⟩
    · have further := lt_offsetAfter sql t.offset c
      have later := ih u mem
      exact ⟨by omega, later.2⟩

theorem Turns.onward (go : Turns h sql manner params offset result turns outcome) :
    turns.Pairwise fun t u => t.offset < u.offset := by
  induction go with
  | finished | unsent => exact .nil
  | failed => exact List.pairwise_singleton _ _
  | @passed params result t c r? turns outcome sent goes compiled ending rest ih =>
    apply List.Pairwise.cons _ ih
    intro u mem
    exact Nat.lt_of_lt_of_le (lt_offsetAfter sql t.offset c) (rest.offset_le u mem).1

theorem Turns.length_le (go : Turns h sql manner params offset result turns outcome) :
    turns.length ≤ sql.utf8ByteSize - offset := by
  induction go with
  | finished | unsent => exact Nat.zero_le _
  | failed sent =>
    have inside := sent.1
    rw [List.length_singleton]
    omega
  | @passed params result t c r? turns outcome sent goes compiled ending rest ih =>
    have inside := sent.1
    have further := lt_offsetAfter sql t.offset c
    rw [List.length_cons]
    omega

theorem Turns.each (go : Turns h sql manner params offset result turns outcome)
    {before after : List Turn} {t : Turn} (split : turns = before ++ t :: after) :
    t.offset = reached sql offset before ∧ t.Goes h sql manner (before.foldl left params) ∧
      (after ≠ [] → ∃ r?, t.ending = .ok r?) := by
  induction go generalizing before with
  | finished | unsent => simp at split
  | failed sent goes ending =>
    cases before with
    | nil =>
      cases split
      exact ⟨rfl, goes, by simp⟩
    | cons v before => simp at split
  | @passed params result u c r? turns outcome sent goes compiled ending rest ih =>
    cases before with
    | nil =>
      cases split
      exact ⟨rfl, goes, fun _ => ⟨r?, ending⟩⟩
    | cons v before =>
      cases split
      rw [reached, List.foldl_cons, List.foldl_cons, Turn.next_of_compiled compiled]
      exact ih rfl

theorem Turns.of_ok (go : Turns h sql manner params offset result turns outcome) {r : RunResult}
    (succeeded : outcome = .ok r) :
    sql.utf8ByteSize ≤ reached sql offset turns ∧ (∀ t ∈ turns, ∃ r?, t.ending = .ok r?) ∧
      r = ((turns.filterMap Turn.result?).getLast?).getD result := by
  induction go with
  | finished past =>
    cases succeeded
    exact ⟨past, by simp, rfl⟩
  | unsent | failed => cases succeeded
  | @passed params result t c r? turns outcome sent goes compiled ending rest ih =>
    obtain ⟨past, well, last⟩ := ih succeeded
    refine ⟨?_, ?_, ?_⟩
    · rw [reached, List.foldl_cons, Turn.next_of_compiled compiled]
      exact past
    · exact List.forall_mem_cons.mpr ⟨⟨r?, ending⟩, well⟩
    · have mine : t.result? = r? := by
        rw [Turn.result?, ending]
        rfl
      rw [List.filterMap_cons, mine, last]
      cases r? with
      | none => rfl
      | some r => rw [List.getLast?_cons, Option.getD_some, Option.getD_some]

theorem Turns.of_failure (go : Turns h sql manner params offset result turns outcome) {t : Turn}
    (mem : t ∈ turns) {e : Error} (failed : t.ending = .error e) :
    turns.getLast? = some t ∧ outcome = .error e := by
  induction go with
  | finished | unsent => cases mem
  | @failed params result u e' sent goes ending =>
    obtain rfl := List.mem_singleton.mp mem
    cases ending.symm.trans failed
    exact ⟨rfl, rfl⟩
  | @passed params result u c r? turns outcome sent goes compiled ending rest ih =>
    rcases List.mem_cons.mp mem with rfl | mem
    · cases ending.symm.trans failed
    · obtain ⟨last, raised⟩ := ih mem
      exact ⟨by rw [List.getLast?_cons, last, Option.getD_some], raised⟩

theorem Turns.of_error (go : Turns h sql manner params offset result turns outcome) {e : Error}
    (raised : outcome = .error e) :
    (∃ t ∈ turns, t.ending = .error e) ∨
      ((∀ t ∈ turns, ∃ r?, t.ending = .ok r?) ∧ e = tooLongError sql ∧
        maxTextLength < sql.utf8ByteSize - reached sql offset turns) := by
  induction go with
  | finished => cases raised
  | unsent inside long =>
    cases raised
    exact .inr ⟨by simp, rfl, long⟩
  | @failed params result t e' sent goes ending =>
    cases raised
    exact .inl ⟨t, by simp, ending⟩
  | @passed params result t c r? turns outcome sent goes compiled ending rest ih =>
    rw [reached, List.foldl_cons, Turn.next_of_compiled compiled]
    rcases ih raised with ⟨u, mem, ended⟩ | ⟨well, long⟩
    · exact .inl ⟨u, List.mem_cons_of_mem _ mem, ended⟩
    · exact .inr ⟨List.forall_mem_cons.mpr ⟨⟨r?, ending⟩, well⟩, long⟩

theorem Turns.stops (go : Turns h sql (executes h sql) params offset result turns outcome) :
    StopsAtFailure h sql (turns.flatMap (Turn.said h sql)) (outcome = .error ·) := by
  induction go with
  | finished | unsent => exact .of_smooth smooth_nil
  | @failed params result t e sent goes ending =>
    rw [List.flatMap_singleton]
    apply goes.regular.stops.mono
    intro e' ended
    cases ending.symm.trans ended
    rfl
  | passed sent goes compiled ending rest ih =>
    rw [List.flatMap_cons]
    apply ih.prepend
    apply goes.regular.stops.smooth
    simp [ending]

theorem Turns.course (go : Turns h sql (executes h sql) params 0 .empty turns outcome) :
    Course h sql params turns outcome where
  inside t mem := (go.offset_le t mem).2
  onward := go.onward
  length_le := go.length_le
  each before t after split := by
    obtain ⟨starts, goes, more⟩ := go.each split
    exact ⟨starts, goes.regular, more⟩
  result r succeeded := go.of_ok succeeded
  fails t mem e failed := go.of_failure mem failed
  error e raised := go.of_error raised
  stops := go.stops

end Turns

section Check
variable {h h' : Handle} {sql : String} {manner : Manner} {params params' : List Value} {offset : Nat}
  {result result' : RunResult} {turns checked : List Turn} {outcome outcome' : Except Error RunResult}

/-- A check says nothing but compilations, questions for a failure and finalizings. -/
theorem Turn.Goes.said_of_drops {t : Turn} (goes : t.Goes h sql drops params) :
    (t.said h sql).filterMap Exchange.compilation? = [(t.offset, t.compiled)] ∧
      ∀ x ∈ t.said h sql, ¬x.isBinding ∧ ¬x.isStepping := by
  cases goes with
  | uncompiled | blank => simp [Turn.said, Exchange.compilation?, Exchange.isBinding, Exchange.isStepping]
  | statement offset p used dealt =>
    rw [dealt.1]
    simp [Turn.said, Exchange.compilation?, Exchange.isBinding, Exchange.isStepping]

/-- A check fails where nothing can be compiled. -/
theorem Turn.Goes.compiled_of_drops {t : Turn} {e : Error} (goes : t.Goes h sql drops params)
    (ending : t.ending = .error e) : ∃ code, t.compiled = .error code := by
  cases goes with
  | uncompiled offset code f => exact ⟨code, rfl⟩
  | blank => cases ending
  | statement offset p used dealt =>
    rw [dealt.2] at ending
    cases ending

/-- A run fails where nothing can be compiled or in a statement. -/
theorem Turn.Goes.compiled_of_error {t : Turn} {e : Error} (goes : t.Goes h sql manner params)
    (ending : t.ending = .error e) : (∃ code, t.compiled = .error code) ∨ t.program?.isSome := by
  cases goes with
  | uncompiled offset code f => exact .inl ⟨code, rfl⟩
  | blank => cases ending
  | statement offset p used dealt => exact .inr rfl

theorem Turns.offsets_same (run : Turns h sql manner params offset result turns outcome)
    (check : Turns h' sql drops params' offset result' checked outcome')
    (agree : ∀ t ∈ turns, ∀ u ∈ checked, t.offset = u.offset → t.compiled = u.compiled) :
    turns.map Turn.offset <+: checked.map Turn.offset ∧
      ((∀ t ∈ turns, t.program?.isSome → ∃ r?, t.ending = .ok r?) →
        turns.map Turn.offset = checked.map Turn.offset) := by
  induction run generalizing params' result' checked with
  | finished past =>
    cases check with
    | finished => simp
    | unsent inside => omega
    | failed sent | passed sent => exact absurd sent.1 (Nat.not_lt.mpr past)
  | unsent inside long =>
    cases check with
    | finished past => omega
    | unsent => simp
    | failed sent | passed sent => exact absurd sent.2 (Nat.not_le.mpr long)
  | @failed params result t e sent goes ending =>
    generalize place : t.offset = offset at check
    cases check with
    | finished past => exact absurd sent.1 (Nat.not_lt.mpr (place ▸ past))
    | unsent inside long => exact absurd sent.2 (Nat.not_le.mpr (place ▸ long))
    | failed => simp [place]
    | @passed params' result' u c r? checked outcome' sent' goes' compiled' ending' rest' =>
      have alike := agree t (by simp) u (by simp) place
      refine ⟨by simp [place], fun well => ?_⟩
      rcases goes.compiled_of_error ending with ⟨code, compiled⟩ | found
      · rw [compiled, compiled'] at alike
        cases alike
      · obtain ⟨r?, ended⟩ := well t (by simp) found
        cases ending.symm.trans ended
  | @passed params result t c r? turns outcome sent goes compiled ending rest ih =>
    generalize place : t.offset = offset at check
    cases check with
    | finished past => exact absurd sent.1 (Nat.not_lt.mpr (place ▸ past))
    | unsent inside long => exact absurd sent.2 (Nat.not_le.mpr (place ▸ long))
    | @failed params' result' u e sent' goes' ending' =>
      have alike := agree t (by simp) u (by simp) place
      obtain ⟨code, compiled'⟩ := goes'.compiled_of_drops ending'
      rw [compiled, compiled'] at alike
      cases alike
    | @passed params' result' u c' r? checked outcome' sent' goes' compiled' ending' rest' =>
      have alike := agree t (by simp) u (by simp) place
      rw [compiled, compiled'] at alike
      cases alike
      rw [← place] at rest'
      obtain ⟨before, whole⟩ := ih rest' fun t mem u mem' =>
        agree t (List.mem_cons_of_mem _ mem) u (List.mem_cons_of_mem _ mem')
      refine ⟨?_, fun well => ?_⟩
      · rw [List.map_cons, List.map_cons, place]
        exact List.cons_prefix_cons.mpr ⟨rfl, before⟩
      · rw [List.map_cons, List.map_cons, place,
          whole fun t mem => well t (List.mem_cons_of_mem _ mem)]

theorem Turns.compilations_of_drops
    (check : Turns h' sql drops params' offset result' checked outcome') :
    (checked.flatMap (Turn.said h' sql)).filterMap Exchange.compilation? =
      checked.map fun t => (t.offset, t.compiled) := by
  induction check with
  | finished | unsent => rfl
  | failed sent goes ending => simp [goes.said_of_drops.1]
  | passed sent goes compiled ending rest ih =>
    rw [List.flatMap_cons, List.filterMap_append, goes.said_of_drops.1, ih]
    rfl

theorem Turns.silent_of_drops (check : Turns h' sql drops params' offset result' checked outcome') :
    ∀ x ∈ checked.flatMap (Turn.said h' sql), ¬x.isBinding ∧ ¬x.isStepping := by
  induction check with
  | finished | unsent => simp
  | failed sent goes ending =>
    rw [List.flatMap_singleton]
    exact goes.said_of_drops.2
  | passed sent goes compiled ending rest ih =>
    intro x mem
    rw [List.flatMap_cons] at mem
    rcases List.mem_append.mp mem with mem | mem
    · exact goes.said_of_drops.2 x mem
    · exact ih x mem

end Check

/-- A run of a text without NUL goes through it turn by turn, whatever the engine answers, and a check
of the text that is answered alike goes through it at the same offsets. -/
theorem run_turn_by_turn (eng : Engine σ) (h : Handle) (sql : String) (params : List Value) (s : σ)
    (free : hasNul sql = false) :
    ∃ turns, Talks (eng.observed.run h sql params) (eng.run h sql params) s
        (turns.flatMap (Turn.said h sql)) ∧
      Course h sql params turns (eng.run h sql params s).1 ∧
      ∀ {τ : Type} (checker : Engine τ) (h' : Handle) (s' : τ), ∃ checked,
        Talks (checker.observed.compileAll h' sql) (checker.compileAll h' sql) s'
            (checked.flatMap (Turn.said h' sql)) ∧
          Rehearsal h' sql turns checked := by
  obtain ⟨turns, talks, run⟩ := runFrom_talks h sql eng params 0 .empty s
  have same : ∀ {τ : Type} (eng : Engine τ), eng.run h sql params = eng.runFrom h sql params 0 .empty := by
    intro τ eng
    rw [Engine.run, free]
    rfl
  rw [same, same]
  refine ⟨turns, talks, run.course, ?_⟩
  intro τ checker h' s'
  obtain ⟨checked, talks, check⟩ := compileFrom_talks h' sql checker [] 0 .empty s'
  have same : ∀ {τ : Type} (eng : Engine τ), eng.compileAll h' sql = eng.compileFrom h' sql 0 := by
    intro τ eng
    rw [compileAll, free]
    rfl
  rw [same, same]
  exact ⟨checked, talks, check.compilations_of_drops, check.silent_of_drops, run.offsets_same check⟩

/-- The parameter of a text that begins with a blank piece is for the statement after it. -/
theorem run_turn_by_turn_blank_first :
    hasNul ";SELECT ?;SELECT 2" = false ∧
      ∃ turns, Course ⟨0⟩ ";SELECT ?;SELECT 2" [.int 7] turns
        (Recording.engine.run ⟨0⟩ ";SELECT ?;SELECT 2" [.int 7]
          (.ofEvents [.blank 1, .compiled 9 ⟨1, [("?", none)], [[.integer 7]], none, 0, 0, 0⟩,
            .compiled 8 ⟨0, [("2", none)], [[.integer 2]], none, 0, 0, 0⟩])).1 := by
  have free : hasNul ";SELECT ?;SELECT 2" = false := by decide
  obtain ⟨turns, -, course, -⟩ := run_turn_by_turn Recording.engine ⟨0⟩ ";SELECT ?;SELECT 2" [.int 7]
    (.ofEvents [.blank 1, .compiled 9 ⟨1, [("?", none)], [[.integer 7]], none, 0, 0, 0⟩,
      .compiled 8 ⟨0, [("2", none)], [[.integer 2]], none, 0, 0, 0⟩]) free
  exact ⟨free, turns, course⟩

end SqlBridge.Engine
