import SqlBridge.Proofs.Connection.Tracking
import Mathlib.Data.List.Induction

/-! # The calls that a tracker lets through

The tracker is put between its callers and an engine of which nothing is known:
every verb may succeed or fail, the flag may say anything, and the engine's state
may change between any two verbs. Each visit goes one of five ways, which fix
the calls it makes and the state it leaves. From them it follows over any number
of visits when the tracker is active, and that a transaction which was begun is
ended before another one is begun.
-/

namespace SqlBridge
variable {σ : Type}

/-- A call that the tracker makes of its engine, with the answer. -/
inductive TransactionCall where
  | verb (v : TransactionVerb) (outcome : Except Error Unit)
  | flag (isOpen : Bool)

def answered {α κ : Type} (note : α → κ) (act : StateM σ α) : StateM (σ × List κ) α := fun p =>
  ((act p.1).1, (act p.1).2, p.2 ++ [note (act p.1).1])

/-- The same engine, which also notes its calls with their answers. -/
def TransactionVerbs.answering (verbs : TransactionVerbs σ) :
    TransactionVerbs (σ × List TransactionCall) where
  begin := answered (.verb .begin) verbs.begin
  commit := answered (.verb .commit) verbs.commit
  rollBack := answered (.verb .rollBack) verbs.rollBack
  inTransaction := answered .flag verbs.inTransaction

namespace Transaction

def refusal : Transaction → Error
  | idle => noneActive
  | active => alreadyActive

/-- A verb that was asked of the tracker: the states before it, the result, the states after it, and the
calls that it made of the engine. -/
structure Visit (σ : Type) where
  verb : TransactionVerb
  before : Transaction
  engineBefore : σ
  result : Except Error Unit
  after : Transaction
  engineAfter : σ
  calls : List TransactionCall

/-- Ask the tracker for a verb. The calls are those that the engine notes if it is asked to. -/
def visit (verbs : TransactionVerbs σ) (v : TransactionVerb) (t : Transaction) (s : σ) :
    Visit σ :=
  let ((result, after), s') := track verbs v t s
  ⟨v, t, s, result, after, s', (track verbs.answering v t (s, [])).2.2⟩

namespace Visit

inductive Goes : Visit σ → Prop where
  | refused {v : TransactionVerb} {t : Transaction} {s : σ} (outOfSequence : t.admits v = false) :
      Goes ⟨v, t, s, .error t.refusal, t, s, []⟩
  | begun {s s' : σ} : Goes ⟨.begin, idle, s, .ok (), active, s', [.verb .begin (.ok ())]⟩
  | notBegun {s s' : σ} {e : Error} :
      Goes ⟨.begin, idle, s, .error e, idle, s', [.verb .begin (.error e)]⟩
  | ended {v : TransactionVerb} {s s' : σ} (ends : v ≠ .begin) :
      Goes ⟨v, active, s, .ok (), idle, s', [.verb v (.ok ())]⟩
  | notEnded {v : TransactionVerb} {s s' : σ} {e : Error} {isOpen : Bool} (ends : v ≠ .begin) :
      Goes ⟨v, active, s, .error e, if isOpen then active else idle, s',
        [.verb v (.error e), .flag isOpen]⟩

/-- What a visit in sequence does, and one out of sequence: the latter fails as such, without a call or
a change; the former calls the engine for its own verb, once, and returns the answer. The flag is read
after a failed end of a transaction and at no other time. -/
structure InSequence (r : Visit σ) : Prop where
  refused : r.before.admits r.verb = false →
    r.result = .error r.before.refusal ∧ r.calls = [] ∧
      r.after = r.before ∧ r.engineAfter = r.engineBefore
  served : r.before.admits r.verb = true →
    (r.calls = [.verb r.verb r.result] ∧ (r.verb = .begin ∨ r.result = .ok ())) ∨
      ∃ e isOpen, r.verb ≠ .begin ∧ r.result = .error e ∧
        r.calls = [.verb r.verb (.error e), .flag isOpen]

def Begins (r : Visit σ) : Prop := .verb .begin (.ok ()) ∈ r.calls

/-- The engine has ended its transaction, or has failed to and says that none is open. -/
def Ends (r : Visit σ) : Prop :=
  ∃ v ≠ .begin, .verb v (.ok ()) ∈ r.calls ∨
    (∃ e, .verb v (.error e) ∈ r.calls) ∧ .flag false ∈ r.calls

end Visit

open Visit

/-- The engine decides between the ways, and nothing else is possible. -/
theorem visit_goes (verbs : TransactionVerbs σ) (v : TransactionVerb) (t : Transaction) (s : σ) :
    (visit verbs v t s).Goes := by
  cases t with
  | idle =>
    cases v with
    | begin =>
      have either (o : Except Error Unit) (s' : σ) :
          Goes ⟨.begin, idle, s, o, if o.isOk then active else idle, s', [.verb .begin o]⟩ := by
        cases o with
        | ok => exact .begun
        | error e => exact .notBegun
      rw [visit, track_begin, track_begin]
      exact either _ _
    | commit => exact .refused rfl
    | rollBack => exact .refused rfl
  | active =>
    by_cases ends : v = .begin
    · subst ends
      exact .refused rfl
    · have called : verbs.answering.call v (s, []) = answered (.verb v) (verbs.call v) (s, []) := by
        cases v <;> rfl
      rw [visit, track_ending ends, track_ending ends, called]
      dsimp only [answered]
      rcases verbs.call v s with ⟨e | _, s'⟩
      · rw [afterEnding_error, afterEnding_error]
        exact .notEnded ends
      · exact .ended ends

variable {r : Visit σ}

theorem Visit.Goes.inSequence (goes : r.Goes) : r.InSequence := by
  cases goes with
  | refused outOfSequence =>
    exact ⟨fun _ => ⟨rfl, rfl, rfl, rfl⟩, fun admitted => absurd admitted (by simp [outOfSequence])⟩
  | begun => exact ⟨nofun, fun _ => .inl ⟨rfl, .inl rfl⟩⟩
  | notBegun => exact ⟨nofun, fun _ => .inl ⟨rfl, .inl rfl⟩⟩
  | ended ends =>
    exact ⟨fun refused => absurd ends (of_decide_eq_false refused), fun _ => .inl ⟨rfl, .inr rfl⟩⟩
  | notEnded ends =>
    exact ⟨fun refused => absurd ends (of_decide_eq_false refused),
      fun _ => .inr ⟨_, _, ends, rfl, rfl⟩⟩

/-- A visit leaves the tracker active if it begins a transaction, or finds one and does not end
it. -/
theorem Visit.Goes.after_active (goes : r.Goes) :
    r.after = active ↔ r.Begins ∨ r.before = active ∧ ¬r.Ends := by
  cases goes with
  | refused => simp [Begins, Ends]
  | begun => simp [Begins]
  | notBegun => simp [Begins]
  | ended ends => simp [Begins, Ends, ends, Ne.symm ends]
  | @notEnded v _ _ e isOpen ends =>
    cases isOpen with
    | true => simp [Begins, Ends]
    | false => simp [Begins, Ends, ends]

/-- A transaction is begun only where there is none. -/
theorem Visit.Goes.before_of_begins (goes : r.Goes) (begins : r.Begins) : r.before = idle := by
  cases goes with
  | begun => rfl
  | notBegun => rfl
  | refused => simp [Begins] at begins
  | ended ends => exact absurd begins (by simp [Begins, Ne.symm ends])
  | notEnded => simp [Begins] at begins

/-! ## Any number of visits -/

/-- What may happen next: the tracker is asked for a verb, or the engine's state changes by
itself. -/
inductive Move (σ : Type) where
  | ask (v : TransactionVerb)
  | drift (change : σ → σ)

def Move.verb? : Move σ → Option TransactionVerb
  | ask v => some v
  | drift _ => none

/-- The visits so far, and the tracker and the engine after them. -/
structure History (σ : Type) where
  visits : List (Visit σ)
  tracker : Transaction
  engine : σ

def History.move (verbs : TransactionVerbs σ) (h : History σ) : Move σ → History σ
  | .ask v =>
    let r := visit verbs v h.tracker h.engine
    ⟨h.visits ++ [r], r.after, r.engineAfter⟩
  | .drift change => { h with engine := change h.engine }

def history (verbs : TransactionVerbs σ) (s₀ : σ) (moves : List (Move σ)) : History σ :=
  moves.foldl (History.move verbs) ⟨[], idle, s₀⟩

theorem concat_eq_append_cons {α : Type} {xs before after : List α} {x y : α}
    (split : xs ++ [x] = before ++ y :: after) :
    (xs = before ∧ x = y ∧ after = []) ∨
      ∃ earlier, after = earlier ++ [x] ∧ xs = before ++ y :: earlier := by
  induction after using List.reverseRecOn with
  | nil =>
    obtain ⟨same, last⟩ := List.append_inj' split rfl
    exact .inl ⟨same, List.singleton_inj.mp last, rfl⟩
  | append_singleton after last _ =>
    rw [← List.cons_append, ← List.append_assoc] at split
    obtain ⟨same, new⟩ := List.append_inj' split rfl
    exact .inr ⟨after, by rw [List.singleton_inj.mp new], same⟩

/-- Some visit has begun a transaction, and none since then has ended it. -/
def HeldOpen (visits : List (Visit σ)) : Prop :=
  ∃ before r after, visits = before ++ r :: after ∧ r.Begins ∧ ∀ r' ∈ after, ¬r'.Ends

theorem not_heldOpen_nil : ¬HeldOpen ([] : List (Visit σ)) := by
  rintro ⟨before, r, after, split, -⟩
  simp at split

theorem heldOpen_concat {visits : List (Visit σ)} :
    HeldOpen (visits ++ [r]) ↔ r.Begins ∨ HeldOpen visits ∧ ¬r.Ends := by
  constructor
  · rintro ⟨before, r', after, split, begins, still⟩
    rcases concat_eq_append_cons split with ⟨rfl, rfl, rfl⟩ | ⟨earlier, rfl, rfl⟩
    · exact .inl begins
    · exact .inr ⟨⟨before, r', earlier, rfl, begins, fun u there => still u (by simp [there])⟩,
        still r (by simp)⟩
  · rintro (begins | ⟨⟨before, r', after, rfl, begins, still⟩, notEnded⟩)
    · exact ⟨visits, r, [], rfl, begins, by simp⟩
    · refine ⟨before, r', after ++ [r], by simp, begins, fun u there => ?_⟩
      rcases List.mem_append.mp there with earlier | last
      · exact still u earlier
      · rwa [List.mem_singleton.mp last]

/-- What holds of every history: each visit has gone one of its ways, each found the tracker as
the visits before it had left it, and so is the tracker now. -/
structure History.Regular (h : History σ) : Prop where
  goes : ∀ r ∈ h.visits, r.Goes
  found : ∀ before r after, h.visits = before ++ r :: after →
    (r.before = active ↔ HeldOpen before)
  tracker : h.tracker = active ↔ HeldOpen h.visits

theorem History.Regular.move {h : History σ} (regular : h.Regular)
    (verbs : TransactionVerbs σ) (m : Move σ) : (h.move verbs m).Regular := by
  cases m with
  | drift change => exact ⟨regular.goes, regular.found, regular.tracker⟩
  | ask v =>
    have goes := visit_goes verbs v h.tracker h.engine
    have here : (visit verbs v h.tracker h.engine).before = h.tracker := rfl
    refine ⟨fun r there => ?_, fun before r after split => ?_, ?_⟩
    · rcases List.mem_append.mp there with earlier | last
      · exact regular.goes r earlier
      · rwa [List.mem_singleton.mp last]
    · rcases concat_eq_append_cons split with ⟨rfl, rfl, -⟩ | ⟨earlier, -, same⟩
      · rw [here]
        exact regular.tracker
      · exact regular.found before r earlier same
    · rw [History.move, heldOpen_concat, goes.after_active, here, regular.tracker]

theorem history_concat (verbs : TransactionVerbs σ) (s₀ : σ) (moves : List (Move σ)) (m : Move σ) :
    history verbs s₀ (moves ++ [m]) = (history verbs s₀ moves).move verbs m := by
  rw [history, history, List.foldl_append, List.foldl_cons, List.foldl_nil]

theorem history_regular (verbs : TransactionVerbs σ) (s₀ : σ) (moves : List (Move σ)) :
    (history verbs s₀ moves).Regular := by
  induction moves using List.reverseRecOn with
  | nil =>
    refine ⟨fun r there => absurd there List.not_mem_nil, fun before r after split => ?_, ?_⟩
    · exact absurd split.symm (List.append_ne_nil_of_right_ne_nil _ (List.cons_ne_nil _ _))
    · exact iff_of_false (fun isActive => nomatch isActive) not_heldOpen_nil
  | append_singleton moves m ih =>
    rw [history_concat]
    exact ih.move verbs m

/-- Every verb that is asked for makes a visit, in order. -/
theorem history_verbs (verbs : TransactionVerbs σ) (s₀ : σ) (moves : List (Move σ)) :
    (history verbs s₀ moves).visits.map Visit.verb = moves.filterMap Move.verb? := by
  induction moves using List.reverseRecOn with
  | nil => rfl
  | append_singleton moves m ih =>
    rw [history_concat, List.filterMap_append, ← ih]
    cases m with
    | ask v => exact List.map_append
    | drift change => exact (List.append_nil _).symm

/-- Take any engine, whatever its answers, and any order of verbs asked of a new tracker and of changes
of the engine by itself. Every visit does what it must in sequence, and finds the tracker active
exactly if among the visits before it one has begun a transaction and none since then has ended it; and so
the tracker stands after all of them. So between two visits that begin a transaction there is one
that ends it. -/
theorem calls_in_sequence (verbs : TransactionVerbs σ) (s₀ : σ) (moves : List (Move σ)) :
    let h := history verbs s₀ moves
    h.visits.map Visit.verb = moves.filterMap Move.verb? ∧
      (∀ r ∈ h.visits, r.InSequence) ∧
      (∀ before r after, h.visits = before ++ r :: after →
        (r.before = active ↔ HeldOpen before)) ∧
      (h.tracker = active ↔ HeldOpen h.visits) ∧
      ∀ before r between r' after, h.visits = before ++ r :: between ++ r' :: after →
        r.Begins → r'.Begins → ∃ u ∈ between, u.Ends := by
  intro h
  have regular := history_regular verbs s₀ moves
  refine ⟨history_verbs verbs s₀ moves, fun r there => (regular.goes r there).inSequence,
    regular.found, regular.tracker, ?_⟩
  intro before r between r' after split begins begins'
  by_contra unended
  have goes : r'.Goes := regular.goes r' (by change r' ∈ h.visits; rw [split]; simp)
  have held : HeldOpen (before ++ r :: between) :=
    ⟨before, r, between, rfl, begins, fun u there ends => unended ⟨u, there, ends⟩⟩
  have found : r'.before = active := (regular.found _ r' after split).mpr held
  rw [goes.before_of_begins begins'] at found
  cases found

/-- The engine leaves a transaction by itself: the commit fails and asks, and a begin is let through
again. -/
example :
    (history switch false [.ask .begin, .ask .begin, .drift fun _ => false, .ask .commit,
      .ask .begin]).visits.map Visit.calls =
    [[.verb .begin (.ok ())], [],
      [.verb .commit (.error (.query (.ofMessage "no transaction is active"))), .flag false],
      [.verb .begin (.ok ())]] := rfl

end Transaction
end SqlBridge
