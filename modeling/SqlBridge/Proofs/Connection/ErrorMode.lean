import SqlBridge.Proofs.Connection.Operation
import SqlBridge.Proofs.Engine.Calls

/-! # What the error mode decides

The same operation is compared under the three error modes, from states that
differ in the mode alone. The engine gets the same calls and the states after it
differ in the mode alone. What differs besides is how a failure of the engine
reaches the caller, and whether it is warned of.
-/

namespace SqlBridge

def Connection.under (c : Connection) (mode : ErrorMode) : Connection :=
  { c with state := { c.state with errorMode := mode } }

namespace Running
variable {σ : Type}

def under (r : Running σ) (mode : ErrorMode) : Running σ :=
  { r with connection := r.connection.under mode }

def logged (r : Running σ) : Running (σ × List Call) := ⟨(r.engine, []), r.connection, r.warnings⟩

end Running

/-- How one outcome is shown under the error modes: the result and the warnings of each, and what is
recorded. A success clears what was recorded before, and an error that is not the engine's leaves it.
A failure of the engine is recorded; its error is the result in one mode, and in the others it is
the reply that stands for a failure, in one of them with a warning. -/
def ShownByMode {α : Type} (failed : α) (before : LastError) (outcome : Except Error α)
    (result : ErrorMode → Except Error α) (warnings : ErrorMode → List Warning)
    (recorded : LastError) : Prop :=
  match outcome with
  | .ok a => recorded = .success ∧ ∀ mode, result mode = .ok a ∧ warnings mode = []
  | .error e =>
    if e.isFromEngine then
      recorded = .ofError e ∧
        (result .exception = .error e ∧ warnings .exception = []) ∧
        (result .silent = .ok failed ∧ warnings .silent = []) ∧
        result .warning = .ok failed ∧ ∃ w, warnings .warning = [w]
    else recorded = before ∧ ∀ mode, result mode = .error e ∧ warnings mode = []

theorem ErrorMode.last_report {α : Type} (mode mode' : ErrorMode) (method : Method)
    (before : LastError) (outcome : Except Error α) :
    (mode.report method before outcome).last = (mode'.report method before outcome).last := by
  cases outcome with
  | ok a => rfl
  | error e =>
    simp only [report]
    cases e.isFromEngine with
    | false => rfl
    | true => cases mode <;> cases mode' <;> rfl

/-- The report of an outcome is shown in this way, whatever the reply says of it. -/
theorem ErrorMode.shown_report {α β : Type} (mode : ErrorMode) (method : Method)
    (before : LastError) (outcome : Except Error α) (reply : Option α → β) :
    ShownByMode (reply none) before (outcome.map fun a => reply (some a))
      (fun mode => (mode.report method before outcome).result.map reply)
      (fun mode => (mode.report method before outcome).warnings)
      (mode.report method before outcome).last := by
  rw [last_report mode .silent]
  cases outcome with
  | ok a => exact ⟨rfl, fun _ => ⟨rfl, rfl⟩⟩
  | error e =>
    simp only [ShownByMode, Except.map, report]
    cases e.isFromEngine with
    | false => exact ⟨rfl, fun _ => ⟨rfl, rfl⟩⟩
    | true => exact ⟨rfl, ⟨rfl, rfl⟩, ⟨rfl, rfl⟩, rfl, _, rfl⟩

namespace Connection
variable {σ : Type}

theorem attempt_under (eng : Engine σ) (op : Operation) (c : Connection) (mode : ErrorMode) :
    op.attempt eng (c.under mode) = op.attempt eng c := by
  cases op <;> rfl

/-- The reply to an operation whose failure is not hidden. -/
def Operation.answer (eng : Engine σ) (op : Operation) (r : Running σ) : Except Error op.Reply :=
  (op.outcome eng r.connection r.engine).map fun a => op.reply (some a)

def Operation.calls (eng : Engine σ) (op : Operation) (r : Running σ) : List Call :=
  (op.perform eng.logged r.logged).2.engine.2

def executeCalls (eng : Engine σ) (st : Statement) (params : List Value) (r : Running σ) :
    List Call :=
  (execute eng.logged st params r.logged).2.engine.2

/-- Under every mode an operation makes the same of the engine and of the connection, but for the
mode itself, and its outcome is shown as the mode says. -/
def Operation.OnlyShows (eng : Engine σ) (op : Operation) (r : Running σ) : Prop :=
  ∃ (result : ErrorMode → Except Error op.Reply) (warnings : ErrorMode → List Warning) (s : σ)
    (c : Connection),
    (∀ mode, op.perform eng (r.under mode) =
      (result mode, ⟨s, c.under mode, r.warnings ++ warnings mode⟩)) ∧
    ShownByMode op.failed r.connection.state.lastError (op.answer eng r) result warnings
      c.state.lastError

/-- Under every mode running a prepared statement makes the same of the engine and of the statement,
leaves the connection alone, and its outcome is shown as the mode says. -/
def ExecuteOnlyShows (eng : Engine σ) (st : Statement) (params : List Value) (r : Running σ) :
    Prop :=
  ∃ (result : ErrorMode → Except Error Bool) (warnings : ErrorMode → List Warning) (s : σ)
    (st' : Statement),
    (∀ mode, execute eng st params (r.under mode) =
      ((result mode, st'), ⟨s, r.connection.under mode, r.warnings ++ warnings mode⟩)) ∧
    ShownByMode false st.error
      ((eng.run r.connection.handle st.sql params r.engine).1.map fun _ => true) result warnings
      st'.error

theorem perform_onlyShows (eng : Engine σ) (op : Operation) (r : Running σ) :
    op.OnlyShows eng r := by
  rcases attempted : op.attempt eng r.connection r.engine with ⟨⟨outcome, t⟩, s⟩
  have answer : op.answer eng r = outcome.map fun a => op.reply (some a) := by
    rw [Operation.answer, Operation.outcome, attempted]
  let report (mode : ErrorMode) := mode.report op.method r.connection.state.lastError outcome
  refine ⟨fun mode => (report mode).result.map op.reply, fun mode => (report mode).warnings, s,
    { r.connection with
      state := { r.connection.state with transaction := t, lastError := (report .silent).last } },
    fun mode => ?_, ?_⟩
  · have same : op.attempt eng (r.under mode).connection (r.under mode).engine =
      ((outcome, t), s) := (congrFun (attempt_under eng op r.connection mode) _).trans attempted
    rw [perform_eq, same]
    simp only [report, ErrorMode.last_report .silent mode]
    rfl
  · rw [answer]
    exact ErrorMode.shown_report .silent op.method _ outcome op.reply

theorem execute_onlyShows (eng : Engine σ) (st : Statement) (params : List Value)
    (r : Running σ) : ExecuteOnlyShows eng st params r := by
  rcases ran : eng.run r.connection.handle st.sql params r.engine with ⟨outcome, s⟩
  let report (mode : ErrorMode) := mode.report .execute st.error outcome
  refine ⟨fun mode => (report mode).result.map Option.isSome, fun mode => (report mode).warnings,
    s, afterRun st (report .silent).last outcome, fun mode => ?_, ?_⟩
  · have same : eng.run (r.under mode).connection.handle st.sql params (r.under mode).engine =
      (outcome, s) := ran
    rw [execute_eq, same]
    simp only [report, ErrorMode.last_report .silent mode]
    rfl
  · rw [afterRun_error, ran]
    exact ErrorMode.shown_report .silent .execute st.error outcome Option.isSome

/-- Every operation that reports an outcome, and running a prepared statement, do the same under
every error mode. The engine gets the same calls, and afterwards the connection and the statement are
the same but for the mode. The result and the log are the same too, unless the engine failed: how
that is shown is all that the mode decides. -/
theorem errorMode_only_shows (eng : Engine σ) (r : Running σ) :
    (∀ op : Operation, op.OnlyShows eng r) ∧
    (∀ st params, ExecuteOnlyShows eng st params r) ∧
    ∀ mode mode',
      (∀ op : Operation, op.calls eng (r.under mode) = op.calls eng (r.under mode')) ∧
      ∀ st params,
        executeCalls eng st params (r.under mode) = executeCalls eng st params (r.under mode') := by
  refine ⟨fun op => perform_onlyShows eng op r, fun st params => execute_onlyShows eng st params r,
    fun mode mode' => ⟨fun op => ?_, fun st params => ?_⟩⟩
  · obtain ⟨_, _, s, _, same, -⟩ := perform_onlyShows eng.logged op r.logged
    have calls (mode : ErrorMode) : op.calls eng (r.under mode) = s.2 :=
      congrArg (fun after => after.2.engine.2) (same mode)
    rw [calls, calls]
  · obtain ⟨_, _, s, _, same, -⟩ := execute_onlyShows eng.logged st params r.logged
    have calls (mode : ErrorMode) : executeCalls eng st params (r.under mode) = s.2 :=
      congrArg (fun after => after.2.engine.2) (same mode)
    rw [calls, calls]

end Connection
end SqlBridge
