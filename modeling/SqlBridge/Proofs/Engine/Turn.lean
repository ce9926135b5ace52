import SqlBridge.Proofs.Engine.StatementLoop

/-! # One turn of a run

What a turn says is read off the way in which it goes. It compiles once, binds
values of the parameters that are left to the positions from 1 on in order, and
steps its statement once, after all values are bound. The first call that fails
is followed by no other than the question for the failure and the finalizing.
-/

namespace SqlBridge

namespace Exchange

def binding? : Exchange → Option (Nat × Option Cell)
  | ⟨.bind _ _ position cell, _⟩ => some (position, some cell)
  | _ => none

/-- The engine refuses to compile or to bind, or fails to step. -/
def Fails : Exchange → Prop
  | ⟨.compile _ _ _, .error _⟩ => True
  | ⟨.bind _ _ _ _, .error _⟩ => True
  | ⟨.step _ _, stepping⟩ => stepping.failure ≠ none
  | _ => False

end Exchange

def Smooth (log : List Exchange) : Prop := ∀ x ∈ log, ¬x.Fails

section Smooth
variable {x : Exchange} {log log' : List Exchange}

@[simp] theorem smooth_nil : Smooth [] := by simp [Smooth]

@[simp] theorem smooth_cons : Smooth (x :: log) ↔ ¬x.Fails ∧ Smooth log := by simp [Smooth]

@[simp] theorem smooth_append : Smooth (log ++ log') ↔ Smooth log ∧ Smooth log' := by
  simp [Smooth, or_imp, forall_and]

end Smooth

namespace Engine

def numbered (i : Nat) (params : List Value) : List (Nat × Option Cell) :=
  (params.zipIdx i).map fun v => (v.2, Cell.ofValue? v.1)

variable (h : Handle) (sql : String)

/-- No call fails, or the first one that does is the last one that compiles, binds or steps, and the
failure that the engine tells then is raised. -/
def StopsAtFailure (log : List Exchange) (raised : Error → Prop) : Prop :=
  Smooth log ∨
    ∃ before x f after, log = before ++ x :: ⟨.lastFailure h, f⟩ :: after ∧ Smooth before ∧
      x.Fails ∧ raised (recorded sql f) ∧ ∀ y ∈ after, ∃ p, y = ⟨.finalize h p, ()⟩

structure Turn.Regular (params : List Value) (t : Turn) : Prop where
  goes : t.Goes h sql (executes h sql) params
  compiles : (t.said h sql).filterMap Exchange.compilation? = [(t.offset, t.compiled)]
  /-- The first values that are left are bound to the first positions, in order. -/
  binds : ∃ k ≤ params.length, t.talk.filterMap Exchange.binding? = numbered 1 (params.take k)
  steps_le : t.talk.countP Exchange.isStepping ≤ 1
  /-- A turn that ends well has stepped what it found, if anything, and has a result of it. -/
  steps : ∀ r?, t.ending = .ok r? →
    t.talk.countP Exchange.isStepping = (if t.program?.isSome then 1 else 0) ∧
      r?.isSome = t.program?.isSome
  /-- A value without a position stops the turn before the statement is stepped. -/
  beyond : ∀ p accepted, t.talk.head? = some ⟨.parameterCount h p, accepted⟩ →
    accepted < params.length →
    (∀ v ∈ params.take accepted, ∃ cell, Cell.ofValue? v = some cell) →
    (∀ x ∈ t.talk, x.isBinding → ¬x.Fails) →
    t.ending = .error (rangeError sql) ∧ t.talk.countP Exchange.isStepping = 0
  stops : StopsAtFailure h sql (t.said h sql) (t.ending = .error ·)

variable {h sql}

namespace StopsAtFailure
variable {log log' : List Exchange} {raised raised' : Error → Prop}

theorem of_smooth (smooth : Smooth log) : StopsAtFailure h sql log raised := .inl smooth

theorem of_last {x : Exchange} {f : Failure} (fails : x.Fails) (raises : raised (recorded sql f)) :
    StopsAtFailure h sql [x, ⟨.lastFailure h, f⟩] raised :=
  .inr ⟨[], x, f, [], rfl, smooth_nil, fails, raises, by simp⟩

theorem prepend (smooth : Smooth log) (stops : StopsAtFailure h sql log' raised) :
    StopsAtFailure h sql (log ++ log') raised := by
  rcases stops with smooth' | ⟨before, x, f, after, rfl, calm, fails, raises, finalizes⟩
  · exact of_smooth (smooth_append.mpr ⟨smooth, smooth'⟩)
  · exact .inr ⟨log ++ before, x, f, after, by simp, smooth_append.mpr ⟨smooth, calm⟩, fails, raises,
      finalizes⟩

theorem finalize (p : Program) (stops : StopsAtFailure h sql log raised) :
    StopsAtFailure h sql (log ++ [⟨.finalize h p, ()⟩]) raised := by
  rcases stops with smooth | ⟨before, x, f, after, rfl, calm, fails, raises, finalizes⟩
  · apply of_smooth
    simp [smooth, Exchange.Fails]
  · refine .inr ⟨before, x, f, after ++ [⟨.finalize h p, ()⟩], by simp, calm, fails, raises, ?_⟩
    intro y mem
    rcases List.mem_append.mp mem with mem | mem
    · exact finalizes y mem
    · exact ⟨p, List.mem_singleton.mp mem⟩

theorem mono (stops : StopsAtFailure h sql log raised) (weaker : ∀ e, raised e → raised' e) :
    StopsAtFailure h sql log raised' := by
  rcases stops with smooth | ⟨before, x, f, after, same, calm, fails, raises, finalizes⟩
  · exact of_smooth smooth
  · exact .inr ⟨before, x, f, after, same, calm, fails, weaker _ raises, finalizes⟩

theorem smooth (stops : StopsAtFailure h sql log raised) (none : ∀ e, ¬raised e) : Smooth log := by
  rcases stops with smooth | ⟨before, x, f, after, same, calm, fails, raises, finalizes⟩
  · exact smooth
  · exact absurd raises (none _)

end StopsAtFailure

section Binding
variable {p : Program} {accepted i : Nat} {params : List Value} {said : List Exchange}
  {outcome : Except Error Unit}

theorem boundFrom_bindings (i : Nat) (cells : List Cell) :
    (boundFrom h p i cells).filterMap Exchange.binding? =
      (cells.zipIdx i).map fun cell => (cell.2, some cell.1) := by
  rw [boundFrom, List.filterMap_map, ← List.filterMap_eq_map]
  rfl

theorem boundFrom_smooth (i : Nat) (cells : List Cell) : Smooth (boundFrom h p i cells) := by
  intro x mem
  obtain ⟨cell, -, rfl⟩ := List.mem_map.mp mem
  exact id

theorem boundFrom_compilations (i : Nat) (cells : List Cell) :
    (boundFrom h p i cells).filterMap Exchange.compilation? = [] := by
  simp [boundFrom, Exchange.compilation?]

theorem boundFrom_steppings (i : Nat) (cells : List Cell) :
    (boundFrom h p i cells).countP Exchange.isStepping = 0 := by
  simp [boundFrom, Exchange.isStepping]

theorem numbered_of_cells {taken : List Value} {cells : List Cell}
    (same : taken.map Cell.ofValue? = cells.map some) (i : Nat) :
    numbered i taken = (cells.zipIdx i).map fun cell => (cell.2, some cell.1) := by
  have swapped : ∀ {γ : Type} (f : γ → Option Cell) (l : List γ),
      (l.zipIdx i).map (fun v => (v.2, f v.1)) = ((l.map f).zipIdx i).map Prod.swap := by
    intro γ f l
    simp [List.zipIdx_map]
  rw [numbered, swapped, same, ← swapped]

/-- Binding says nothing but bindings of the first values, up to a failure. -/
theorem Binds.numbered (binds : Binds h sql p accepted i params said outcome) :
    ∃ k ≤ params.length, said.filterMap Exchange.binding? = numbered i (params.take k) := by
  obtain ⟨taken, left, cells, ending, rfl, same, -, rfl, ends⟩ := binds
  have long : taken.length = cells.length := by simpa using congrArg List.length same
  cases ends with
  | complete | tooMany _ | tooLong _ _ _ =>
    refine ⟨taken.length, by simp, ?_⟩
    simp [boundFrom_bindings, numbered_of_cells same, Exchange.binding?]
  | @refused v vs cell within fits code f =>
    refine ⟨taken.length + 1, by simp, ?_⟩
    have more : (taken ++ [v]).map Cell.ofValue? = (cells ++ [cell]).map some := by
      simp [same, fits]
    have first : (taken ++ v :: vs).take (taken.length + 1) = taken ++ [v] := by
      rw [List.take_length_add_append, List.take_succ_cons, List.take_zero]
    rw [first, numbered_of_cells more]
    simp [boundFrom_bindings, Exchange.binding?, List.zipIdx_append]

theorem Binds.compilations (binds : Binds h sql p accepted i params said outcome) :
    said.filterMap Exchange.compilation? = [] := by
  obtain ⟨taken, left, cells, ending, -, -, -, rfl, ends⟩ := binds
  rw [List.filterMap_append, boundFrom_compilations, List.nil_append]
  cases ends <;> rfl

theorem Binds.steppings (binds : Binds h sql p accepted i params said outcome) :
    said.countP Exchange.isStepping = 0 := by
  obtain ⟨taken, left, cells, ending, -, -, -, rfl, ends⟩ := binds
  rw [List.countP_append, boundFrom_steppings, Nat.zero_add]
  cases ends <;> rfl

theorem Binds.smooth (binds : Binds h sql p accepted i params said (.ok ())) : Smooth said := by
  obtain ⟨taken, left, cells, ending, -, -, -, rfl, ends⟩ := binds
  cases ends
  rw [List.append_nil]
  exact boundFrom_smooth i cells

theorem Binds.stops (binds : Binds h sql p accepted i params said outcome) :
    StopsAtFailure h sql said (outcome = .error ·) := by
  obtain ⟨taken, left, cells, ending, -, -, -, rfl, ends⟩ := binds
  apply StopsAtFailure.prepend (boundFrom_smooth i cells)
  cases ends with
  | complete | tooMany _ => exact .of_smooth smooth_nil
  | tooLong _ _ f => exact .of_smooth (by simp [Exchange.Fails])
  | refused _ _ code f => exact .of_last trivial rfl

/-- Values that fit and are not refused, but more of them than there are positions. -/
theorem Binds.beyond (binds : Binds h sql p accepted 1 params said outcome)
    (more : accepted < params.length)
    (fit : ∀ v ∈ params.take accepted, ∃ cell, Cell.ofValue? v = some cell)
    (smooth : ∀ x ∈ said, x.isBinding → ¬x.Fails) : outcome = .error (rangeError sql) := by
  obtain ⟨taken, left, cells, ending, rfl, same, last, rfl, ends⟩ := binds
  have long : taken.length = cells.length := by simpa using congrArg List.length same
  cases ends with
  | complete =>
    rw [List.append_nil, long] at more
    rcases last with rfl | last
    · exact absurd more (Nat.not_lt_zero _)
    · omega
  | tooMany _ => rfl
  | @tooLong v vs within none f =>
    have inside : v ∈ (taken ++ v :: vs).take accepted := by
      have split : accepted = taken.length + (accepted - taken.length - 1 + 1) := by omega
      rw [split, List.take_length_add_append, List.take_succ_cons]
      simp
    obtain ⟨cell, fits⟩ := fit v inside
    rw [none] at fits
    cases fits
  | @refused v vs cell within fits code f =>
    exact absurd trivial (smooth ⟨.bind h p (1 + cells.length) cell, .error code⟩ (by simp) rfl)

end Binding

section Execution
variable {p : Program} {params : List Value} {talk : List Exchange} {outcome : Except Error RunResult}

theorem Counts.silent {before after : Int} {counted : List Exchange} {changes : Nat}
    (counts : Counts h before after counted changes) :
    counted.filterMap Exchange.compilation? = [] ∧ counted.filterMap Exchange.binding? = [] ∧
      counted.countP Exchange.isStepping = 0 ∧ Smooth counted := by
  cases counts with
  | still _ => simp
  | moved _ changes => exact ⟨rfl, rfl, rfl, by simp [Exchange.Fails]⟩

theorem Executing.compilations (executing : Executing h sql p params talk outcome) :
    talk.filterMap Exchange.compilation? = [] := by
  cases executing with
  | unbound binds =>
    simp only [List.filterMap_cons, Exchange.compilation?, binds.compilations]
  | failed binds =>
    simp only [List.filterMap_cons, List.filterMap_append, Exchange.compilation?, binds.compilations]
    rfl
  | completed binds _ _ _ _ counts =>
    simp only [List.filterMap_cons, List.filterMap_append, Exchange.compilation?, binds.compilations,
      counts.silent]
    rfl

theorem Executing.numbered (executing : Executing h sql p params talk outcome) :
    ∃ k ≤ params.length, talk.filterMap Exchange.binding? = numbered 1 (params.take k) := by
  cases executing with
  | unbound binds => simpa only [List.filterMap_cons, Exchange.binding?] using binds.numbered
  | failed binds =>
    simpa only [List.filterMap_cons, List.filterMap_append, List.filterMap_nil, List.append_nil,
      Exchange.binding?] using binds.numbered
  | completed binds _ _ _ _ counts =>
    simpa only [List.filterMap_cons, List.filterMap_append, List.filterMap_nil, List.append_nil,
      Exchange.binding?, counts.silent] using binds.numbered

theorem Executing.steppings (executing : Executing h sql p params talk outcome) :
    talk.countP Exchange.isStepping ≤ 1 ∧
      ∀ r, outcome = .ok r → talk.countP Exchange.isStepping = 1 := by
  cases executing with
  | unbound binds => simp [Exchange.isStepping, binds.steppings]
  | failed binds => simp [Exchange.isStepping, binds.steppings, List.countP_cons]
  | completed binds _ _ _ _ counts =>
    simp [Exchange.isStepping, binds.steppings, counts.silent, List.countP_cons]

theorem Executing.stops (executing : Executing h sql p params talk outcome) :
    StopsAtFailure h sql talk (outcome = .error ·) := by
  cases executing with
  | @unbound accepted said e binds =>
    have calm : Smooth [⟨.parameterCount h p, accepted⟩] := by simp [Exchange.Fails]
    apply StopsAtFailure.prepend calm
    apply binds.stops.mono
    intro e' same
    cases same
    rfl
  | @failed accepted said binds described before rows code f =>
    have calm : Smooth ((⟨.parameterCount h p, accepted⟩ :: said) ++
        [⟨.columns h p, described⟩, ⟨.totalChanges h, before⟩]) := by
      simp [Exchange.Fails, binds.smooth]
    have stops : StopsAtFailure h sql [⟨.step h p, ⟨rows, some code⟩⟩, ⟨.lastFailure h, f⟩]
        ((.error (recorded sql f) : Except Error RunResult) = .error ·) :=
      .of_last (Option.some_ne_none code) rfl
    simpa using stops.prepend calm
  | completed binds _ _ _ _ counts =>
    apply StopsAtFailure.of_smooth
    simp [Exchange.Fails, binds.smooth, counts.silent]

/-- A value without a position ends the execution before the step. -/
theorem Executing.beyond (executing : Executing h sql p params talk outcome) {q : Program}
    {accepted : Nat} (asked : talk.head? = some ⟨.parameterCount h q, accepted⟩)
    (more : accepted < params.length)
    (fit : ∀ v ∈ params.take accepted, ∃ cell, Cell.ofValue? v = some cell)
    (smooth : ∀ x ∈ talk, x.isBinding → ¬x.Fails) :
    outcome = .error (rangeError sql) ∧ talk.countP Exchange.isStepping = 0 := by
  have binding : ∀ (said tail : List Exchange) {bound : Except Error Unit},
      talk = ⟨.parameterCount h q, accepted⟩ :: (said ++ tail) →
      Binds h sql p accepted 1 params said bound → bound = .error (rangeError sql) := by
    intro said tail bound same binds
    apply binds.beyond more fit
    intro x mem
    exact smooth x (by simp [same, mem])
  cases executing with
  | @unbound accepted' said e binds =>
    cases asked
    cases binding said [] (by simp) binds
    exact ⟨rfl, by simp [Exchange.isStepping, binds.steppings]⟩
  | failed binds =>
    cases asked
    cases binding _ _ rfl binds
  | completed binds =>
    cases asked
    cases binding _ _ rfl binds

end Execution

/-- Every turn of a run does what is asked of it. -/
theorem Turn.Goes.regular {params : List Value} {t : Turn}
    (goes : t.Goes h sql (executes h sql) params) : t.Regular h sql params := by
  cases goes with
  | uncompiled offset code f =>
    exact {
      goes := .uncompiled offset code f
      compiles := rfl
      binds := ⟨0, Nat.zero_le _, rfl⟩
      steps_le := Nat.zero_le _
      steps := by simp
      beyond := by simp
      stops := .of_last trivial rfl }
  | blank offset used =>
    exact {
      goes := .blank offset used
      compiles := rfl
      binds := ⟨0, Nat.zero_le _, rfl⟩
      steps_le := Nat.zero_le _
      steps := by simp [Turn.program?, Except.toOption]
      beyond := by simp
      stops := .of_smooth (by simp [Turn.said, Exchange.Fails]) }
  | @statement offset p used talk ending dealt =>
    obtain ⟨outcome, executing, rfl⟩ := dealt
    exact {
      goes := .statement offset p used ⟨outcome, executing, rfl⟩
      compiles := by
        simp only [Turn.said, List.filterMap_cons, List.filterMap_append, executing.compilations]
        rfl
      binds := by
        simpa only [List.filterMap_append, List.filterMap_cons, List.filterMap_nil, List.append_nil,
          Exchange.binding?] using executing.numbered
      steps_le := by simpa [Exchange.isStepping] using executing.steppings.1
      steps := by
        intro r? ended
        cases outcome with
        | error e => cases ended
        | ok r => 
          cases ended
          simp [Exchange.isStepping, executing.steppings.2 r rfl, Turn.program?, Except.toOption]
      beyond := by
        intro q accepted asked more fit smooth
        have first : talk.head? = some ⟨.parameterCount h q, accepted⟩ := by
          cases talk with
          | nil => cases asked
          | cons x rest => exact asked
        obtain ⟨rfl, unstepped⟩ := executing.beyond first more fit fun x mem =>
          smooth x (List.mem_append_left _ mem)
        exact ⟨rfl, by simpa [Exchange.isStepping] using unstepped⟩
      stops := by
        have compiling : Smooth [⟨.compile h sql offset, .ok ⟨some p, used⟩⟩] := by
          simp [Exchange.Fails]
        apply StopsAtFailure.prepend compiling
        apply (executing.stops.finalize p).mono
        intro e failed
        rw [failed]
        rfl }

end Engine
end SqlBridge
