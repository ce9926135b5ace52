import SqlBridge.Connection
import SqlBridge.Proofs.Engine.Execution
import SqlBridge.Proofs.Fetch.Call

/-! # Operations that report an outcome

Each of these operations of a connection makes an attempt, which may reach the
engine, and then reports what came of it. The attempt reads neither the error
mode nor the last error, and the report reads nothing else. Every operation is
proved to be its attempt followed by one report; the same is proved of running a
prepared statement, whose outcome is recorded in the statement.
-/

namespace SqlBridge

namespace Connection
variable {σ : Type}

/-- The operations of a connection that report an outcome. -/
inductive Operation where
  | exec (sql : String)
  | query (sql : String)
  | queryMode (sql : String) (mode : FetchMode)
  | queryStyle (objects : ObjectStore) (sql : String) (style : Option FetchStyle)
      (args : List Argument)
  | prepare (sql : String)
  | begin
  | commit
  | rollBack

namespace Operation

/-- What an attempt that succeeds gives. -/
abbrev Payload : Operation → Type
  | exec _ => Nat
  | query _ | queryMode _ _ | queryStyle _ _ _ _ | prepare _ => Statement
  | begin | commit | rollBack => Unit

abbrev Reply : Operation → Type
  | exec _ => Option Nat
  | query _ | queryMode _ _ | queryStyle _ _ _ _ | prepare _ => Option Statement
  | begin | commit | rollBack => Bool

def reply : (op : Operation) → Option op.Payload → op.Reply
  | exec _, n? => n?
  | query _, st? | queryMode _ _, st? | queryStyle _ _ _ _, st? | prepare _, st? => st?
  | begin, done? | commit, done? | rollBack, done? => done?.isSome

def failed (op : Operation) : op.Reply := op.reply none

def made? : (op : Operation) → op.Reply → Option Statement
  | query _, st? | queryMode _ _, st? | queryStyle _ _ _ _, st? | prepare _, st? => st?
  | exec _, _ | begin, _ | commit, _ | rollBack, _ => none

def method : Operation → Method
  | exec _ => .exec
  | query _ | queryMode _ _ | queryStyle _ _ _ _ => .query
  | prepare _ => .prepare
  | begin => .beginTransaction
  | commit => .commit
  | rollBack => .rollBack

def perform (eng : Engine σ) : (op : Operation) → StateM (Running σ) (Except Error op.Reply)
  | exec sql => Connection.exec eng sql
  | query sql => Connection.query eng sql
  | queryMode sql mode => Connection.queryMode eng sql mode
  | queryStyle objects sql style args => Connection.queryStyle eng objects sql style args
  | prepare sql => Connection.prepare eng sql
  | begin => Connection.begin eng
  | commit => Connection.commit eng
  | rollBack => Connection.rollBack eng

variable (eng : Engine σ) (c : Connection)

def attemptQuery (mode : Option FetchMode) (sql : String) :
    StateM σ (Except Error Statement × Transaction) := do
  let outcome ← eng.run c.handle sql []
  return (outcome.map (Statement.ofSql sql mode).withResult, c.state.transaction)

/-- What an operation does before it reports: its outcome, and the transaction after it. -/
def attempt : (op : Operation) → StateM σ (Except Error op.Payload × Transaction)
  | exec sql => do
    let outcome ← eng.run c.handle sql []
    return (outcome.map RunResult.changes, c.state.transaction)
  | query sql => attemptQuery eng c none sql
  | queryMode sql mode => attemptQuery eng c (some mode) sql
  | queryStyle objects sql style args =>
    if style.isNone && !c.state.generation.allowsNullMode then
      return (.error nullModeError, c.state.transaction)
    else match StyledCall.query.chooseMode c.state.classes objects style args with
      | .error e => return (.error e, c.state.transaction)
      | .ok mode => attemptQuery eng c mode sql
  | prepare sql => do
    let outcome ← eng.compileAll c.handle sql
    return (outcome.map fun _ => .ofSql sql none, c.state.transaction)
  | begin => Transaction.begin (eng.transactionVerbs c.handle) c.state.transaction
  | commit => Transaction.commit (eng.transactionVerbs c.handle) c.state.transaction
  | rollBack => Transaction.rollBack (eng.transactionVerbs c.handle) c.state.transaction

/-- The outcome of an operation, before the error mode decides how it is shown. -/
def outcome (op : Operation) (s : σ) : Except Error op.Payload := (op.attempt eng c s).1.1

end Operation

end Connection

theorem ErrorMode.report_error {α : Type} (mode : ErrorMode) (method : Method) (last : LastError)
    (e : Error) :
    (mode.report method last (.error e : Except Error α)).result = .error e ∨
      (mode.report method last (.error e : Except Error α)).result = .ok none := by
  simp only [report]
  cases e.isFromEngine with
  | false => exact .inl rfl
  | true => cases mode <;> simp

namespace Running
variable {σ α β : Type}

/-- The report of an attempt, with the connection at work after it. -/
def reported (r : Running σ) (method : Method) (attempted : (Except Error α × Transaction) × σ) :
    Report α × Running σ :=
  let s := r.connection.state
  let report := s.errorMode.report method s.lastError attempted.1.1
  (report,
    { engine := attempted.2
      connection :=
        { r.connection with
          state := { s with transaction := attempted.1.2, lastError := report.last } }
      warnings := r.warnings ++ report.warnings })

theorem reported_map (r : Running σ) (method : Method) (f : α → β) (outcome : Except Error α)
    (t : Transaction) (s : σ) :
    r.reported method ((outcome.map f, t), s) =
      let before := r.reported method ((outcome, t), s)
      (⟨before.1.result.map (Option.map f), before.1.last, before.1.warnings⟩, before.2) := by
  cases outcome with
  | ok a => rfl
  | error e =>
    simp only [reported, Except.map, ErrorMode.report]
    cases e.isFromEngine
    · rfl
    · cases r.connection.state.errorMode <;> rfl

theorem reported_error (r : Running σ) (method : Method) (e : Error) (t : Transaction) (s : σ) :
    let ofUnit := r.reported method (((.error e : Except Error Unit), t), s)
    let after := r.reported method (((.error e : Except Error α), t), s)
    (ofUnit.1.result.map fun _ => none) = after.1.result ∧ ofUnit.2 = after.2 := by
  simp only [reported, ErrorMode.report]
  cases e.isFromEngine
  · exact ⟨rfl, rfl⟩
  · cases r.connection.state.errorMode <;> exact ⟨rfl, rfl⟩

/-- An error that is not the engine's is returned as it is and leaves no trace. -/
theorem reported_refusal (r : Running σ) (method : Method) {e : Error}
    (refusal : e.isFromEngine = false) :
    r.reported method ((.error e, r.connection.state.transaction), r.engine) =
      ((⟨.error e, r.connection.state.lastError, []⟩ : Report α), r) := by
  simp [reported, ErrorMode.report, refusal]

end Running

namespace Connection
variable {σ : Type} {eng : Engine σ}

theorem queryIn_eq (mode : Option FetchMode) (sql : String) (r : Running σ) :
    queryIn eng mode sql r =
      let after := r.reported .query (Operation.attemptQuery eng r.connection mode sql r.engine)
      (after.1.result, after.2) := by
  change _ = (let after := r.reported .query ((_, _), _); (after.1.result, after.2))
  rw [Running.reported_map]
  rfl

theorem prepare_eq (sql : String) (r : Running σ) :
    prepare eng sql r =
      let after := r.reported .prepare ((Operation.prepare sql).attempt eng r.connection r.engine)
      (after.1.result, after.2) := by
  change _ = (let after := r.reported .prepare ((_, _), _); (after.1.result, after.2))
  rw [Running.reported_map]
  rfl

theorem queryStyle_eq (objects : ObjectStore) (sql : String) (style : Option FetchStyle)
    (args : List Argument) (r : Running σ) :
    queryStyle eng objects sql style args r =
      let op := Operation.queryStyle objects sql style args
      let after := r.reported .query (op.attempt eng r.connection r.engine)
      (after.1.result, after.2) := by
  rw [queryStyle, Engine.bind_apply]
  change ite ((style.isNone && !r.connection.state.generation.allowsNullMode) = true)
    (_ : StateM (Running σ) _) _ r = _
  simp only [Operation.attempt]
  split
  next rejected =>
    obtain ⟨result, after⟩ := r.reported_error (α := Statement) .query nullModeError
      r.connection.state.transaction r.engine
    exact Prod.ext result after
  next accepted =>
    change (match StyledCall.query.chooseMode r.connection.state.classes objects style args with
      | .error e => pure (.error e)
      | .ok mode => queryIn eng mode sql : StateM (Running σ) _) r = _
    cases chosen : StyledCall.query.chooseMode r.connection.state.classes objects style args with
    | error e =>
      change (Except.error e, r) =
        (let after := r.reported .query ((_, _), _); (after.1.result, after.2))
      rw [Running.reported_refusal r .query (StyledCall.chooseMode_refusal chosen)]
    | ok mode => exact queryIn_eq mode sql r

/-- Every operation is its attempt, followed by one report. -/
theorem perform_eq (op : Operation) (r : Running σ) :
    op.perform eng r =
      let after := r.reported op.method (op.attempt eng r.connection r.engine)
      (after.1.result.map op.reply, after.2) := by
  cases op with
  | exec sql => exact congrArg (·, _) (id_map _).symm
  | query sql =>
    rw [Operation.perform, query, queryIn_eq]
    exact congrArg (·, _) (id_map _).symm
  | queryMode sql mode =>
    rw [Operation.perform, queryMode, queryIn_eq]
    exact congrArg (·, _) (id_map _).symm
  | queryStyle objects sql style args =>
    rw [Operation.perform, queryStyle_eq]
    exact congrArg (·, _) (id_map _).symm
  | prepare sql =>
    rw [Operation.perform, prepare_eq]
    exact congrArg (·, _) (id_map _).symm
  | begin => rfl
  | commit => rfl
  | rollBack => rfl

/-- A prepared statement after a run of the given outcome: its rows are given up in any case. -/
def afterRun (st : Statement) (last : LastError) : Except Error RunResult → Statement
  | .ok result => { st.clear with error := last }.withResult result
  | .error _ => { st.clear with error := last }

theorem afterRun_error (st : Statement) (last : LastError) (outcome : Except Error RunResult) :
    (afterRun st last outcome).error = last := by
  cases outcome <;> rfl

/-- Running a prepared statement is one run of its text, followed by one report. The connection
keeps its state. -/
theorem execute_eq (st : Statement) (params : List Value) (r : Running σ) :
    execute eng st params r =
      let outcome := eng.run r.connection.handle st.sql params r.engine
      let report := r.connection.state.errorMode.report .execute st.error outcome.1
      ((report.result.map Option.isSome, afterRun st report.last outcome.1),
        { r with engine := outcome.2, warnings := r.warnings ++ report.warnings }) := by
  rw [execute, Engine.bind_apply]
  change _ = (_, { r with engine := (runSql eng st.clear.sql params r).2.engine, warnings := _ })
  have same : (eng.run r.connection.handle st.sql params r.engine).1 =
    (runSql eng st.clear.sql params r).1 := rfl
  rw [same]
  cases (runSql eng st.clear.sql params r).1 with
  | ok result => rfl
  | error e =>
    have read : (Running.readState (runSql eng st.clear.sql params r).2).1 = r.connection.state := rfl
    have kept : st.clear.error = st.error := rfl
    simp only [Engine.bind_apply]
    rw [read, kept]
    rcases r.connection.state.errorMode.report_error (α := RunResult) .execute st.error e
      with shown | shown
    · simp only [shown]
      rfl
    · simp only [shown]
      rfl

end Connection
end SqlBridge
