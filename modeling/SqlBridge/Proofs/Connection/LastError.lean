import SqlBridge.Proofs.Connection.Operation
import SqlBridge.Proofs.Connection.Tracking
import SqlBridge.Proofs.Engine.Failure

/-! # What a connection does to its last error

An operation that reports an outcome overwrites the last error of its connection
with that outcome; a refused one leaves it, and so does everything else that a
connection can do. No failure that is reported has the SQLSTATE of a success.
-/

namespace SqlBridge

theorem error_of_map {α β : Type} {f : α → β} {outcome : Except Error α} {e : Error}
    (failed : outcome.map f = .error e) : outcome = .error e := by
  cases outcome with
  | ok a => cases failed
  | error e' => cases failed; rfl

theorem Transaction.track_error_of_admits {σ : Type} {verbs : TransactionVerbs σ}
    {v : TransactionVerb} {t : Transaction} {s : σ} {e : Error} (admitted : t.admits v = true)
    (failed : (track verbs v t s).1.1 = .error e) : (verbs.call v s).1 = .error e := by
  cases t with
  | idle =>
    obtain rfl : v = .begin := of_decide_eq_true admitted
    rw [track_begin] at failed
    exact failed
  | active =>
    rw [track_ending (of_decide_eq_true admitted)] at failed
    rcases called : verbs.call v s with ⟨e' | _, s'⟩
    · rw [called, afterEnding_error] at failed
      exact failed
    · rw [called] at failed
      cases failed

/-- A failure that reached the tracker from the engine is the failure of the engine's verb. -/
theorem Transaction.track_error {σ : Type} {verbs : TransactionVerbs σ} {v : TransactionVerb}
    {t : Transaction} {s : σ} {e : Error} (failed : (track verbs v t s).1.1 = .error e)
    (engine : e.isFromEngine = true) : (verbs.call v s).1 = .error e := by
  cases admitted : t.admits v with
  | false => cases t <;> cases v <;> cases admitted <;> cases failed <;> cases engine
  | true => exact track_error_of_admits admitted failed

namespace Connection
open Running
variable {σ : Type} {eng : Engine σ} {c : Connection} {r : Running σ} {s : σ} {e : Error}

namespace Operation

theorem attemptQuery_error {mode : Option FetchMode} {sql : String}
    (failed : (attemptQuery eng c mode sql s).1.1 = .error e) : RunError sql e := by
  have failed : (eng.run c.handle sql [] s).1.map (Statement.ofSql sql mode).withResult = .error e :=
    failed
  exact Engine.runError_of_run (error_of_map failed)

/-- A query with a style is rejected for its null mode, refused for its arguments, or it runs. -/
theorem outcome_queryStyle (eng : Engine σ) (c : Connection) (objects : ObjectStore) (sql : String)
    (style : Option FetchStyle) (args : List Argument) (s : σ) :
    let outcome := (queryStyle objects sql style args).outcome eng c s
    outcome = .error nullModeError ∨ (∃ e, e.isFromEngine = false ∧ outcome = .error e) ∨
      ∃ mode, outcome = (attemptQuery eng c mode sql s).1.1 := by
  simp only [outcome, attempt]
  split
  · exact .inl rfl
  · cases chosen : StyledCall.query.chooseMode c.state.classes objects style args with
    | error e => exact .inr (.inl ⟨e, StyledCall.chooseMode_refusal chosen, rfl⟩)
    | ok mode => exact .inr (.inr ⟨mode, rfl⟩)

/-- An operation fails with an error that is refused, or that does not look like a success. -/
theorem outcome_error {op : Operation} (failed : op.outcome eng c s = .error e)
    (engine : e.isFromEngine = true) : (LastError.ofError e).sqlstate ≠ LastError.successState := by
  have verb {v : TransactionVerb} {t : Transaction}
      (failed : (Transaction.track (eng.transactionVerbs c.handle) v t s).1.1 = .error e) :
      (LastError.ofError e).sqlstate ≠ LastError.successState := by
    have called := Transaction.track_error failed engine
    cases v with
    | begin => exact (Engine.runError_of_executeText called).ofError_ne_success
    | commit => exact (Engine.runError_of_executeText called).ofError_ne_success
    | rollBack => exact (Engine.runError_of_executeText called).ofError_ne_success
  cases op with
  | exec sql =>
    have failed : (eng.run c.handle sql [] s).1.map RunResult.changes = .error e := failed
    exact (Engine.runError_of_run (error_of_map failed)).ofError_ne_success
  | query sql => exact (attemptQuery_error failed).ofError_ne_success
  | queryMode sql mode => exact (attemptQuery_error failed).ofError_ne_success
  | queryStyle objects sql style args =>
    obtain rejected | ⟨e', refused, ended⟩ | ⟨mode, ran⟩ :=
      outcome_queryStyle eng c objects sql style args s
    · cases rejected.symm.trans failed
      exact (by decide : generalState ≠ LastError.successState)
    · cases ended.symm.trans failed
      cases refused.symm.trans engine
    · exact (attemptQuery_error (ran.symm.trans failed)).ofError_ne_success
  | prepare sql =>
    have failed : (eng.compileAll c.handle sql s).1.map (fun _ => Statement.ofSql sql none) =
      .error e := failed
    exact (Engine.runError_of_compileAll (error_of_map failed)).ofError_ne_success
  | begin => exact verb (v := .begin) failed
  | commit => exact verb (v := .commit) failed
  | rollBack => exact verb (v := .rollBack) failed

theorem attemptQuery_ok {mode : Option FetchMode} {sql : String} {st : Statement}
    (succeeded : (attemptQuery eng c mode sql s).1.1 = .ok st) :
    ∃ r s', eng.run c.handle sql [] s = (.ok r, s') ∧ st = (Statement.ofSql sql mode).withResult r := by
  have succeeded : (eng.run c.handle sql [] s).1.map (Statement.ofSql sql mode).withResult = .ok st :=
    succeeded
  rcases ran : eng.run c.handle sql [] s with ⟨e | r, s'⟩
  · rw [ran] at succeeded
    cases succeeded
  · rw [ran] at succeeded
    cases succeeded
    exact ⟨r, s', rfl, rfl⟩

/-- How a statement is made: its text is compiled only, or the text was run and the statement has the
result. -/
inductive Made (eng : Engine σ) (c : Connection) (s : σ) : Statement → Prop where
  | compiled (sql : String) : Made eng c s (.ofSql sql none)
  | ran {sql : String} {result : RunResult} {s' : σ} (ran : eng.run c.handle sql [] s = (.ok result, s'))
      (mode : Option FetchMode) : Made eng c s ((Statement.ofSql sql mode).withResult result)

theorem made_of_attemptQuery {mode : Option FetchMode} {sql : String} {st : Statement}
    (succeeded : (attemptQuery eng c mode sql s).1.1 = .ok st) : Made eng c s st := by
  obtain ⟨r, s', ran, rfl⟩ := attemptQuery_ok succeeded
  exact .ran ran mode

theorem outcome_made {op : Operation} {a : op.Payload} {st : Statement}
    (succeeded : op.outcome eng c s = .ok a) (made : op.made? (op.reply (some a)) = some st) :
    Made eng c s st := by
  cases op with
  | exec sql => cases made
  | query sql =>
    cases made
    exact made_of_attemptQuery succeeded
  | queryMode sql mode =>
    cases made
    exact made_of_attemptQuery succeeded
  | queryStyle objects sql style args =>
    cases made
    obtain rejected | ⟨e, -, ended⟩ | ⟨mode, ran⟩ := outcome_queryStyle eng c objects sql style args s
    · cases rejected.symm.trans succeeded
    · cases ended.symm.trans succeeded
    · exact made_of_attemptQuery (ran.symm.trans succeeded)
  | prepare sql =>
    cases made
    have succeeded : (eng.compileAll c.handle sql s).1.map (fun _ => Statement.ofSql sql none) =
      .ok st := succeeded
    cases compiled : (eng.compileAll c.handle sql s).1 with
    | error e =>
      rw [compiled] at succeeded
      cases succeeded
    | ok _ =>
      rw [compiled] at succeeded
      cases succeeded
      exact .compiled sql
  | begin => cases made
  | commit => cases made
  | rollBack => cases made

end Operation

theorem perform_result (op : Operation) (r : Running σ) :
    (op.perform eng r).1 =
      (r.connection.state.errorMode.report op.method r.connection.state.lastError
        (op.outcome eng r.connection r.engine)).result.map op.reply := by
  rw [perform_eq]
  rfl

theorem outcome_of_error {op : Operation} (performed : (op.perform eng r).1 = .error e) :
    op.outcome eng r.connection r.engine = .error e := by
  rw [perform_result] at performed
  cases ended : op.outcome eng r.connection r.engine with
  | ok a =>
    rw [ended] at performed
    cases performed
  | error raised =>
    rw [ended] at performed
    rcases ErrorMode.report_error (α := op.Payload) r.connection.state.errorMode op.method
      r.connection.state.lastError raised with shown | shown
    · rw [shown] at performed
      cases performed
      rfl
    · rw [shown] at performed
      cases performed

theorem outcome_of_made {op : Operation} {reply : op.Reply} {st : Statement}
    (performed : (op.perform eng r).1 = .ok reply) (made : op.made? reply = some st) :
    ∃ a, op.outcome eng r.connection r.engine = .ok a ∧ op.made? (op.reply (some a)) = some st := by
  rw [perform_result] at performed
  cases ended : op.outcome eng r.connection r.engine with
  | ok a =>
    rw [ended] at performed
    cases performed
    exact ⟨a, rfl, made⟩
  | error e =>
    rw [ended] at performed
    rcases ErrorMode.report_error (α := op.Payload) r.connection.state.errorMode op.method
      r.connection.state.lastError e with shown | shown
    · rw [shown] at performed
      cases performed
    · rw [shown] at performed
      cases performed
      cases op <;> cases made

/-- A statement that an operation hands over has not failed yet. -/
theorem made_error {op : Operation} {reply : op.Reply} {st : Statement}
    (performed : (op.perform eng r).1 = .ok reply) (made : op.made? reply = some st) :
    st.error = .success := by
  obtain ⟨a, ended, made⟩ := outcome_of_made performed made
  cases Operation.outcome_made ended made with
  | compiled => rfl
  | ran => rfl

/-- The last error after an operation is its outcome, unless it was refused. -/
theorem perform_lastError (op : Operation) (r : Running σ) :
    (op.perform eng r).2.connection.state.lastError =
      (r.connection.state.errorMode.report op.method r.connection.state.lastError
        (op.outcome eng r.connection r.engine)).last := by
  rw [perform_eq]
  rfl

/-- A write to an attribute changes no more than the three settings that can be written. -/
theorem State.set_settings (state : State) (attr : Attribute) (v : AttributeValue) :
    ∃ errorMode defaultMode stringify,
      (state.set attr v).2.1 = { state with errorMode, defaultMode, stringify } := by
  rw [State.set]
  cases written : state.set? attr v with
  | none => exact ⟨_, _, _, rfl⟩
  | some state' =>
    rw [State.set?.eq_def] at written
    split at written
    · cases written; exact ⟨_, _, _, rfl⟩
    · obtain ⟨mode, -, rfl⟩ := Option.map_eq_some_iff.mp written
      exact ⟨_, _, _, rfl⟩
    · split at written <;> cases written
      exact ⟨_, _, _, rfl⟩
    · obtain ⟨mode, -, rfl⟩ := Option.map_eq_some_iff.mp written
      exact ⟨_, _, _, rfl⟩
    · cases written; exact ⟨_, _, _, rfl⟩
    · cases written; exact ⟨_, _, _, rfl⟩
    · cases written

theorem State.set_lastError (state : State) (attr : Attribute) (v : AttributeValue) :
    (state.set attr v).2.1.lastError = state.lastError := by
  obtain ⟨errorMode, defaultMode, stringify, same⟩ := state.set_settings attr v
  rw [same]

theorem setAttribute_lastError (attr : Attribute) (v : AttributeValue) (r : Running σ) :
    (setAttribute attr v r).2.connection.state.lastError = r.connection.state.lastError :=
  State.set_lastError r.connection.state attr v

theorem getAttribute_lastError (attr : Attribute) (r : Running σ) :
    (getAttribute eng attr r).2.connection.state.lastError = r.connection.state.lastError := by
  cases attr <;> rfl

theorem execute_lastError (st : Statement) (params : List Value) (r : Running σ) :
    (execute eng st params r).2.connection.state.lastError = r.connection.state.lastError := by
  rw [execute_eq]

theorem execute_error (st : Statement) (params : List Value) (r : Running σ) :
    (execute eng st params r).1.2.error =
      (r.connection.state.errorMode.report .execute st.error
        (eng.run r.connection.handle st.sql params r.engine).1).last := by
  rw [execute_eq]
  exact afterRun_error _ _ _

theorem close_connection (eng : Engine σ) (r : Running σ) : ∃ transaction, (close eng r).2.connection =
    { r.connection with state := { r.connection.state with transaction } } := by
  simp only [close, Engine.bind_apply]
  split
  · simp only [Engine.bind_apply]
    generalize (onEngine (Transaction.rollBack _ _) _).1.1 = outcome
    cases outcome <;> exact ⟨_, rfl⟩
  · exact ⟨_, rfl⟩

theorem close_lastError (r : Running σ) :
    (close eng r).2.connection.state.lastError = r.connection.state.lastError := by
  obtain ⟨transaction, closed⟩ := close_connection eng r
  rw [closed]

theorem connect_state {dsn : String} {options : ConnectionOptions} {params : Dsn.Params}
    (connected : (connect eng dsn options s).1 = .ok (c, params)) : c.state = .ofOptions options := by
  rcases required : requirements dsn with e | ⟨params', path, dbname⟩
  · simp only [connect, required] at connected
    cases connected
  · simp only [connect, required, Engine.bind_apply] at connected
    rcases opened : eng.openStorage (storage options path) s with ⟨e | h, s₁⟩
    · simp only [opened] at connected
      cases connected
    · simp only [opened, Engine.bind_apply] at connected
      rcases registered : eng.registerText h databaseFunction dbname s₁ with ⟨e | _, s₂⟩
      · simp only [registered] at connected
        cases connected
      · simp only [registered] at connected
        cases connected
        rfl

theorem connect_lastError {dsn : String} {options : ConnectionOptions} {params : Dsn.Params}
    (connected : (connect eng dsn options s).1 = .ok (c, params)) :
    c.state.lastError = .success := by
  rw [connect_state connected]
  rfl

end Connection
end SqlBridge
