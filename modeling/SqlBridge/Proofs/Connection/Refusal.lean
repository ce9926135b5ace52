import SqlBridge.Proofs.Connection.LastError

/-! # Refused operations

An operation is refused for the arguments that come with a fetch style, or as a
transaction verb out of sequence. The state of the connection alone decides that.
A refused operation returns its error and does nothing else, and every error that
is not the engine's comes from a refusal.
-/

namespace SqlBridge

namespace Error
variable {e : Error}

def isArgument : Error → Bool
  | count _ | type _ _ => true
  | _ => false

def isSequence : Error → Bool
  | sequence _ => true
  | _ => false

theorem isFromEngine_of_isArgument (argument : e.isArgument = true) : e.isFromEngine = false := by
  cases e <;> simp_all [isArgument, isFromEngine]

theorem isFromEngine_of_isSequence (sequence : e.isSequence = true) : e.isFromEngine = false := by
  cases e <;> simp_all [isSequence, isFromEngine]

theorem code_of_isFromEngine (own : e.isFromEngine = false) : e.code = 0 := by
  cases e <;> simp_all [code, isFromEngine]

end Error

namespace Transaction
variable {σ : Type} {t : Transaction} {v : TransactionVerb} {e : Error}

/-- What the tracker has against a verb. -/
def refusal? : Transaction → TransactionVerb → Option Error
  | active, .begin => some alreadyActive
  | idle, .commit | idle, .rollBack => some noneActive
  | idle, .begin | active, .commit | active, .rollBack => none

theorem track_of_refusal (refused : t.refusal? v = some e) (verbs : TransactionVerbs σ) (s : σ) :
    track verbs v t s = ((.error e, t), s) := by
  cases t <;> cases v <;> cases refused <;> rfl

/-- A begin is refused while a transaction is active, and every other verb while none is. -/
theorem refuses_iff (v : TransactionVerb) :
    (∃ e, t.refusal? v = some e ∧ e.isSequence = true) ↔ t.isActive = decide (v = .begin) := by
  cases t <;> cases v <;> simp [refusal?, alreadyActive, noneActive, Error.isSequence, isActive]

theorem isFromEngine_of_refusal (refused : t.refusal? v = some e) : e.isFromEngine = false := by
  cases t <;> cases v <;> cases refused <;> rfl

/-- A verb that is not refused fails with an error of the engine. -/
theorem refusal_of_track {eng : Engine σ} {h : Handle} {s : σ}
    (failed : (track (eng.transactionVerbs h) v t s).1.1 = .error e) (own : e.isFromEngine = false) :
    t.refusal? v = some e := by
  cases admitted : t.admits v with
  | false => cases t <;> cases v <;> cases admitted <;> cases failed <;> rfl
  | true =>
    have called := track_error_of_admits admitted failed
    have engine : e.isFromEngine = true := by
      cases v with
      | begin => exact (Engine.runError_of_executeText called).isFromEngine
      | commit => exact (Engine.runError_of_executeText called).isFromEngine
      | rollBack => exact (Engine.runError_of_executeText called).isFromEngine
    simp [engine] at own

end Transaction

namespace Connection
variable {σ : Type} {eng : Engine σ} {c : Connection} {r : Running σ} {s : σ} {op : Operation}
  {e : Error}

namespace Operation

/-- What the state of the connection has against an operation. -/
def refusal? (state : State) : Operation → Option Error
  | queryStyle objects _ style args =>
    match StyledCall.query.chooseMode state.classes objects style args with
    | .error e => some e
    | .ok _ => none
  | begin => state.transaction.refusal? .begin
  | commit => state.transaction.refusal? .commit
  | rollBack => state.transaction.refusal? .rollBack
  | exec _ | query _ | queryMode _ _ | prepare _ => none

theorem refusal_of_chooseMode {objects : ObjectStore} {sql : String} {style : Option FetchStyle}
    {args : List Argument} :
    (queryStyle objects sql style args).refusal? c.state = some e ↔
      StyledCall.query.chooseMode c.state.classes objects style args = .error e := by
  cases chosen : StyledCall.query.chooseMode c.state.classes objects style args <;>
    simp [refusal?, chosen]

theorem isFromEngine_of_refusal (refused : op.refusal? c.state = some e) :
    e.isFromEngine = false := by
  cases op with
  | queryStyle objects sql style args =>
    exact StyledCall.chooseMode_refusal (refusal_of_chooseMode.mp refused)
  | begin => exact Transaction.isFromEngine_of_refusal (v := .begin) refused
  | commit => exact Transaction.isFromEngine_of_refusal (v := .commit) refused
  | rollBack => exact Transaction.isFromEngine_of_refusal (v := .rollBack) refused
  | exec | query | queryMode | prepare => cases refused

/-- A refused operation does not reach the engine. -/
theorem attempt_of_refusal (refused : op.refusal? c.state = some e) (s : σ) :
    op.attempt eng c s = ((.error e, c.state.transaction), s) := by
  cases op with
  | queryStyle objects sql style args =>
    have chosen := refusal_of_chooseMode.mp refused
    cases style with
    | none => cases chosen
    | some style =>
      simp only [attempt, chosen]
      rfl
  | begin => exact Transaction.track_of_refusal (v := .begin) refused _ s
  | commit => exact Transaction.track_of_refusal (v := .commit) refused _ s
  | rollBack => exact Transaction.track_of_refusal (v := .rollBack) refused _ s
  | exec | query | queryMode | prepare => cases refused

theorem refusal_of_outcome (failed : op.outcome eng c s = .error e) (own : e.isFromEngine = false) :
    op.refusal? c.state = some e := by
  have never {sql : String} : ¬RunError sql e := fun raised => by simp [raised.isFromEngine] at own
  cases op with
  | exec sql =>
    have failed : (eng.run c.handle sql [] s).1.map RunResult.changes = .error e := failed
    exact absurd (Engine.runError_of_run (error_of_map failed)) never
  | query sql => exact absurd (attemptQuery_error failed) never
  | queryMode sql mode => exact absurd (attemptQuery_error failed) never
  | prepare sql =>
    have failed : (eng.compileAll c.handle sql s).1.map (fun _ => Statement.ofSql sql none) =
      .error e := failed
    exact absurd (Engine.runError_of_compileAll (error_of_map failed)) never
  | queryStyle objects sql style args =>
    rw [refusal_of_chooseMode]
    simp only [outcome, attempt] at failed
    split at failed
    · cases failed
      cases own
    · cases chosen : StyledCall.query.chooseMode c.state.classes objects style args with
      | error e' =>
        rw [chosen] at failed
        cases failed
        rfl
      | ok mode =>
        rw [chosen] at failed
        exact absurd (attemptQuery_error failed) never
  | begin => exact Transaction.refusal_of_track (v := .begin) failed own
  | commit => exact Transaction.refusal_of_track (v := .commit) failed own
  | rollBack => exact Transaction.refusal_of_track (v := .rollBack) failed own

end Operation

theorem perform_of_refusal (refused : op.refusal? r.connection.state = some e) :
    op.perform eng r = (.error e, r) := by
  rw [perform_eq, Operation.attempt_of_refusal refused]
  simp only [Running.reported_refusal r _ (Operation.isFromEngine_of_refusal refused)]
  rfl

/-- The caller sees an error that is not the engine's exactly if the operation is refused with it. -/
theorem perform_error_iff (own : e.isFromEngine = false) :
    (op.perform eng r).1 = .error e ↔ op.refusal? r.connection.state = some e :=
  ⟨fun performed => Operation.refusal_of_outcome (outcome_of_error performed) own,
    fun refused => by rw [perform_of_refusal refused]⟩

end Connection
end SqlBridge
