import SqlBridge.Proofs.Engine.Calls
import SqlBridge.Proofs.Engine.Execution

/-! # The tracker and the engine's transaction

The tracker keeps a copy of a state that the engine may leave without it. Of the
engine it is only known how its calls open and close the transaction. Whatever
the order of verbs and of closings from outside, an open transaction is always
tracked, and each verb that the engine gets to see, whether it succeeds or
fails, brings the copy into step again.
-/

namespace SqlBridge
variable {σ : Type}

inductive TransactionVerb where
  | begin
  | commit
  | rollBack
deriving DecidableEq

namespace TransactionVerbs

def call (verbs : TransactionVerbs σ) : TransactionVerb → StateM σ (Except Error Unit)
  | .begin => verbs.begin
  | .commit => verbs.commit
  | .rollBack => verbs.rollBack

/-- The same engine, which also notes the verbs that it is called with. -/
def noting (verbs : TransactionVerbs σ) : TransactionVerbs (σ × List TransactionVerb) where
  begin := noted .begin verbs.begin
  commit := noted .commit verbs.commit
  rollBack := noted .rollBack verbs.rollBack
  inTransaction p := ((verbs.inTransaction p.1).1, (verbs.inTransaction p.1).2, p.2)

/-- What is known of an engine: how its calls open and close its transaction, and that it says
whether one is open. -/
structure Governs (verbs : TransactionVerbs σ) (isOpen : σ → Prop) : Prop where
  begin_ok : ∀ s s', verbs.begin s = (.ok (), s') → isOpen s'
  begin_error : ∀ s s' e, verbs.begin s = (.error e, s') → (isOpen s' ↔ isOpen s)
  ending_ok : ∀ v ≠ .begin, ∀ s s', verbs.call v s = (.ok (), s') → ¬isOpen s'
  ending_error : ∀ v ≠ .begin, ∀ s s' e, verbs.call v s = (.error e, s') →
    (isOpen s' ↔ isOpen s) ∨ ¬isOpen s'
  answer : ∀ s s' b, verbs.inTransaction s = (b, s') → (b = true ↔ isOpen s) ∧ (isOpen s' ↔ isOpen s)

end TransactionVerbs

namespace Transaction

def track (verbs : TransactionVerbs σ) :
    TransactionVerb → Transaction → StateM σ (Except Error Unit × Transaction)
  | .begin => begin verbs
  | .commit => commit verbs
  | .rollBack => rollBack verbs

def Reaches (verbs : TransactionVerbs σ) (v : TransactionVerb) (t : Transaction) (s : σ) : Prop :=
  v ∈ (track verbs.noting v t (s, [])).2.2

/-- A verb is in sequence if it begins a transaction where there is none, or ends one where there
is. -/
def admits : Transaction → TransactionVerb → Bool
  | idle, v => v = .begin
  | active, v => v ≠ .begin

variable {verbs : TransactionVerbs σ} {isOpen : σ → Prop} {v : TransactionVerb} {t : Transaction}
  {s s₀ : σ}

/-- A verb out of sequence is refused: the engine is not asked at all, and nothing changes. -/
theorem track_refused (verbs : TransactionVerbs σ) (refused : t.admits v = false) (s : σ) :
    ∃ e, track verbs v t s = ((.error e, t), s) := by
  cases t with
  | idle =>
    cases v with
    | begin => cases refused
    | commit => exact ⟨noneActive, rfl⟩
    | rollBack => exact ⟨noneActive, rfl⟩
  | active =>
    cases v with
    | begin => exact ⟨alreadyActive, rfl⟩
    | commit => cases refused
    | rollBack => cases refused

theorem track_begin (s : σ) :
    track verbs .begin idle s =
      (((verbs.begin s).1, if (verbs.begin s).1.isOk then active else idle),
        (verbs.begin s).2) := by
  rw [track, begin, Engine.bind_apply]
  cases (verbs.begin s).1 <;> rfl

theorem track_ending (ends : v ≠ .begin) (s : σ) :
    track verbs v active s = afterEnding verbs (verbs.call v s).1 (verbs.call v s).2 := by
  cases v with
  | begin => exact absurd rfl ends
  | commit => rfl
  | rollBack => rfl

theorem afterEnding_error (e : Error) (s : σ) :
    afterEnding verbs (.error e) s =
      ((.error e, if (verbs.inTransaction s).1 then active else idle),
        (verbs.inTransaction s).2) := by
  rw [afterEnding, Engine.bind_apply]
  cases (verbs.inTransaction s).1 <;> rfl

theorem noted_afterEnding (outcome : Except Error Unit) (p : σ × List TransactionVerb) :
    (afterEnding verbs.noting outcome p).2.2 = p.2 := by
  cases outcome with
  | ok => rfl
  | error e => rw [afterEnding_error]; rfl

theorem noted_call (v : TransactionVerb) (p : σ × List TransactionVerb) :
    (verbs.noting.call v p).2.2 = p.2 ++ [v] := by
  cases v <;> rfl

/-- The engine gets to see exactly the verbs in sequence. -/
theorem reaches_iff_admits : Reaches verbs v t s ↔ t.admits v = true := by
  rw [Reaches]
  cases admitted : t.admits v with
  | false =>
    obtain ⟨e, same⟩ := track_refused verbs.noting admitted (s, [])
    simp [same]
  | true =>
    cases t with
    | idle =>
      obtain rfl : v = .begin := of_decide_eq_true admitted
      have noted : (verbs.noting.begin (s, [])).2.2 = [.begin] := noted_call .begin (s, [])
      simp [track_begin, noted]
    | active =>
      simp [track_ending (of_decide_eq_true admitted), noted_afterEnding, noted_call]

/-- The tracker holds a transaction open exactly if the engine does. -/
def InStep (isOpen : σ → Prop) (t : Transaction) (s : σ) : Prop := t = active ↔ isOpen s

/-- Where no open transaction goes untracked, a verb that the engine sees brings the two into
step. -/
theorem inStep_of_admits (governs : verbs.Governs isOpen) (tracked : isOpen s → t = active)
    (admitted : t.admits v = true) :
    InStep isOpen (track verbs v t s).1.2 (track verbs v t s).2 := by
  cases t with
  | idle =>
    obtain rfl : v = .begin := of_decide_eq_true admitted
    rw [track_begin]
    rcases called : verbs.begin s with ⟨_ | _, s'⟩
    · have closed : ¬isOpen s := fun opened => nomatch tracked opened
      simp [InStep, Except.isOk, Except.toBool, governs.begin_error s s' _ called, closed]
    · simp [InStep, Except.isOk, Except.toBool, governs.begin_ok s s' called]
  | active =>
    have ends : v ≠ .begin := of_decide_eq_true admitted
    rw [track_ending ends]
    rcases called : verbs.call v s with ⟨e | _, s'⟩
    · rcases asked : verbs.inTransaction s' with ⟨b, s''⟩
      obtain ⟨answer, same⟩ := governs.answer s' s'' b asked
      rw [afterEnding_error, asked]
      cases b <;> simp_all [InStep]
    · have closed := governs.ending_ok v ends s s' called
      have ended : afterEnding verbs (.ok ()) s' = ((.ok (), idle), s') := rfl
      simpa [ended, InStep] using closed

theorem open_of_failed (governs : verbs.Governs isOpen) (ends : v ≠ .begin) {e : Error}
    {s' : σ} (failed : track verbs v active s = ((.error e, t), s')) (opened : isOpen s') :
    isOpen s := by
  rw [track_ending ends] at failed
  rcases called : verbs.call v s with ⟨_ | _, s₁⟩
  · rw [called, afterEnding_error] at failed
    cases failed
    have opened' : isOpen s₁ := (governs.answer s₁ _ _ rfl).2.mp opened
    exact (governs.ending_error v ends s s₁ _ called).elim (·.mp opened') (absurd opened')
  · rw [called] at failed
    cases failed

/-- The tracker and the engine after any order of verbs and of changes from outside, which may
close a transaction and open none. -/
inductive Interleaved (verbs : TransactionVerbs σ) (isOpen : σ → Prop) (s₀ : σ) :
    Transaction → σ → Prop where
  | start : Interleaved verbs isOpen s₀ idle s₀
  | verb {t : Transaction} {s : σ} (v : TransactionVerb)
      (before : Interleaved verbs isOpen s₀ t s) :
      Interleaved verbs isOpen s₀ (track verbs v t s).1.2 (track verbs v t s).2
  | outside {t : Transaction} {s s' : σ} (before : Interleaved verbs isOpen s₀ t s)
      (closing : isOpen s' → isOpen s) : Interleaved verbs isOpen s₀ t s'

theorem Interleaved.active_of_open (run : Interleaved verbs isOpen s₀ t s)
    (governs : verbs.Governs isOpen) (closed : ¬isOpen s₀) : isOpen s → t = active := by
  induction run with
  | start => exact fun opened => absurd opened closed
  | @verb t s v before ih =>
    cases admitted : t.admits v with
    | false =>
      obtain ⟨e, same⟩ := track_refused verbs admitted s
      rw [same]
      exact ih
    | true => exact (inStep_of_admits governs ih admitted).mpr
  | outside before closing ih => exact fun opened => ih (closing opened)

/-- Take any engine that governs its transaction in this way, with none open at first, and any
order of verbs and of closings from outside. An open transaction is always tracked. A verb that the
engine sees leaves the tracker in step with it, whether the verb succeeds or fails. And once an end
of a transaction that was closed from outside has failed, the engine gets to see the next begin. -/
theorem interleaved_inStep (governs : verbs.Governs isOpen) (closed : ¬isOpen s₀)
    (run : Interleaved verbs isOpen s₀ t s) :
    (isOpen s → t = active) ∧
      (∀ v, Reaches verbs v t s → InStep isOpen (track verbs v t s).1.2 (track verbs v t s).2) ∧
      ∀ v ≠ .begin, t = active → ¬isOpen s →
        ∀ e t' s', track verbs v t s = ((.error e, t'), s') → Reaches verbs .begin t' s' := by
  have tracked := run.active_of_open governs closed
  have inStep (v) (reaches : Reaches verbs v t s) :=
    inStep_of_admits governs tracked (reaches_iff_admits.mp reaches)
  refine ⟨tracked, inStep, ?_⟩
  rintro v ends rfl left e t' s' failed
  have same := inStep v (reaches_iff_admits.mpr (decide_eq_true ends))
  rw [failed] at same
  have idle' : t' ≠ active := fun still => left (open_of_failed governs ends failed (same.mp still))
  rw [reaches_iff_admits]
  cases t' with
  | idle => rfl
  | active => exact absurd rfl idle'

/-- An engine that is only its transaction: a second begin fails, and so does an end of nothing. -/
def switch : TransactionVerbs Bool :=
  let ending : StateM Bool (Except Error Unit) := fun opened =>
    (if opened then .ok () else .error (.query (.ofMessage "no transaction is active")), false)
  { begin := fun opened =>
      (if opened then .error (.query (.ofMessage "within a transaction")) else .ok (), true)
    commit := ending
    rollBack := ending
    inTransaction := fun opened => (opened, opened) }

theorem switch_governs : switch.Governs (· = true) where
  begin_ok s s' called := by cases s <;> cases called; rfl
  begin_error s s' e called := by cases s <;> cases called; rfl
  ending_ok v ends s s' called := by
    cases v with
    | begin => exact absurd rfl ends
    | commit => cases s <;> cases called; decide
    | rollBack => cases s <;> cases called; decide
  ending_error v ends s s' e called := by
    cases v with
    | begin => exact absurd rfl ends
    | commit => cases s <;> cases called; decide
    | rollBack => cases s <;> cases called; decide
  answer s s' b asked := by cases asked; simp

/-- A transaction is begun and closed from outside; then its commit fails, and the next begin
reaches the engine. -/
theorem interleaved_inStep_closed :
    Interleaved switch (· = true) false active false ∧
      (∃ e, track switch .commit active false = ((.error e, idle), false)) ∧
      Reaches switch .begin idle false := by
  have begun : Interleaved switch (· = true) false active true := .verb .begin .start
  have left : Interleaved switch (· = true) false active false := .outside begun (by decide)
  have failed : track switch .commit active false = ((.error _, idle), false) := rfl
  refine ⟨left, ⟨_, failed⟩, ?_⟩
  obtain ⟨-, -, resumes⟩ := interleaved_inStep switch_governs (by decide) left
  exact resumes .commit (by decide) rfl (by decide) _ _ _ failed

end Transaction
end SqlBridge
