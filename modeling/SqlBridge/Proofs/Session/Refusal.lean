import SqlBridge.Engine.Recording
import SqlBridge.Proofs.Connection.ErrorMode
import SqlBridge.Proofs.Connection.Refusal
import SqlBridge.Proofs.Session.LastError

/-! # Refusals in a session

A query with a style and the choice of a statement's mode are refused for their
arguments, and transaction verbs when they are out of sequence. The session as
it stands decides that before anything happens: the engine is not called, and
every connection and statement is afterwards as it was.
-/

namespace SqlBridge.Session
variable {σ α : Type} {eng : Engine σ} {s : Session σ} {connection name keepAs : String}
  {id : ConnectionId} {c : Connection} {op : Connection.Operation} {e : Error}

def logged (s : Session σ) : Session (σ × List Call) := { s with engine := (s.engine, []) }

def under (s : Session σ) (id : ConnectionId) (mode : ErrorMode) : Session σ :=
  { s with live := (s.live.get? id).elim s.live fun c => s.live.insert id (c.under mode) }

namespace Command

def calls (eng : Engine σ) (command : Command) (s : Session σ) : List Call :=
  (command.perform eng.logged s.logged).2.engine.2

def error? : (command : Command) → command.Reply → Option Error
  | connect _ _ _, .error e => some e
  | operate _ _ _, some (.error e) => some e
  | execute _ _, some (.error e) => some e
  | fetch _ _, some (.error e) => some e
  | fetchAll _ _, some (.error e) => some e
  | setFetchMode _ _ _, some (.error e) => some e
  | _, _ => none

/-- Is the error one that the command raises on its own, without the engine? -/
def refusedWith : Command → Error → Bool
  | operate _ (.queryStyle _ _ _ _) _, e | setFetchMode _ _ _, e => e.isArgument
  | operate _ .begin _, e | operate _ .commit _, e | operate _ .rollBack _, e => e.isSequence
  | _, _ => false

/-- What the session as it stands has against a command. -/
def refusal? : Command → Session σ → Option Error
  | operate connection op _, s => (s.atWork? connection).bind fun at_ => op.refusal? at_.2.state
  | setFetchMode name style args, s =>
    (s.statement? name).bind fun known =>
      match StyledCall.setFetchMode.chooseMode known.2.classes s.objects (some style) args with
      | .error e => some e
      | .ok _ => none
  | _, _ => none

end Command

section Working

theorem makeStatement_of_error {make : StateM (Running σ) (Except Error (Option Statement))}
    (failed : onConnection connection make s = (some (.error e), s)) :
    makeStatement eng connection keepAs make s = (some (.error e), s) := by
  rw [onConnection_apply] at failed
  cases named? : s.connections.get? connection with
  | none =>
    rw [named?] at failed
    cases failed
  | some named =>
    simp only [named?] at failed
    rw [makeStatement_named named?, failed]

end Working

section UnderModes

theorem get?_live_under (s : Session σ) (id id' : ConnectionId) (mode : ErrorMode) :
    (s.under id mode).live.get? id' =
      (s.live.get? id').map fun c => if id = id' then c.under mode else c := by
  cases found : s.live.get? id with
  | none =>
    by_cases here : id = id'
    · simp [under, ← here, found]
    · simp [under, here, found]
  | some c =>
    by_cases here : id = id'
    · simp [under, ← here, found, OrderedMap.get?_insert]
    · simp [under, here, found, OrderedMap.get?_insert]

theorem atWork?_under (s : Session σ) (id : ConnectionId) (mode : ErrorMode) (connection : String) :
    (s.under id mode).atWork? connection =
      (s.atWork? connection).map fun at_ =>
        (at_.1, if id = at_.1 then at_.2.under mode else at_.2) := by
  have same : (s.under id mode).connections = s.connections := rfl
  simp only [atWork?, get?_live_under, same]
  cases s.connections.get? connection with
  | none => rfl
  | some named =>
    cases found : s.live.get? named.id <;> simp [found]

theorem statement?_under (s : Session σ) (id : ConnectionId) (mode : ErrorMode) (name : String) :
    (s.under id mode).statement? name =
      (s.statement? name).map fun known =>
        (known.1, if id = known.1.owner then { known.2 with errorMode := mode } else known.2) := by
  have same : (s.under id mode).statements = s.statements := rfl
  simp only [statement?, get?_live_under, same]
  cases s.statements.get? name with
  | none => rfl
  | some st =>
    cases found : s.live.get? st.owner with
    | none => simp [found]
    | some c => by_cases here : id = st.owner <;> simp [found, here, Connection.under]

/-- The error mode decides nothing about refusals. -/
theorem Command.refusal?_under (command : Command) (s : Session σ) (id : ConnectionId)
    (mode : ErrorMode) : command.refusal? (s.under id mode) = command.refusal? s := by
  cases command with
  | operate connection op keepAs =>
    have same (c : Connection) : op.refusal? (c.under mode).state = op.refusal? c.state := by
      cases op <;> rfl
    simp only [refusal?, atWork?_under, Option.bind_map]
    congr 1
    ext1 at_
    by_cases here : id = at_.1 <;> simp [here, same]
  | setFetchMode name style args =>
    have same : (s.under id mode).objects = s.objects := rfl
    simp only [refusal?, statement?_under, Option.bind_map, same]
    congr 1
    ext1 known
    by_cases here : id = known.1.owner <;> simp [here]
  | _ => rfl

end UnderModes

section Refused

theorem perform_of_refusal (eng : Engine σ) {command : Command}
    (refused : command.refusal? s = some e) :
    command.error? (command.perform eng s).1 = some e ∧ (command.perform eng s).2 = s := by
  cases command with
  | operate connection op keepAs =>
    obtain ⟨⟨id, c⟩, there, refused⟩ := Option.bind_eq_some_iff.mp refused
    have unchanged : onConnection connection (op.perform eng) s = (some (.error e), s) :=
      onConnection_unchanged there (Connection.perform_of_refusal refused)
    have performed : Command.performOperation eng connection keepAs op s = (some (.error e), s) := by
      cases op with
      | exec | begin | commit | rollBack => exact unchanged
      | query | queryMode | queryStyle | prepare => exact makeStatement_of_error unchanged
    rw [Command.perform, performed]
    exact ⟨rfl, rfl⟩
  | setFetchMode name style args =>
    obtain ⟨⟨st, state⟩, found, refused⟩ := Option.bind_eq_some_iff.mp refused
    rw [Command.perform, setFetchMode_found found, Statement.setFetchMode]
    cases chosen : StyledCall.setFetchMode.chooseMode state.classes s.objects (some style) args with
    | ok mode => simp [chosen] at refused
    | error e' =>
      obtain rfl : e' = e := by simpa [chosen] using refused
      exact ⟨rfl, putStatement_unchanged (statement?_eq_some.mp found).1⟩
  | _ => cases refused

/-- An operation ends in an error that is not the engine's only if it is refused. -/
theorem refusal_of_operation
    (replied : (Command.performOperation eng connection keepAs op s).1 = some (.error e))
    (own : e.isFromEngine = false) : (Command.operate connection op keepAs).refusal? s = some e := by
  rw [performOperation_reply] at replied
  obtain ⟨id, c, there⟩ := atWork?_of_reply replied
  rw [onConnection_reply there, Option.some_inj] at replied
  have refused := (Connection.perform_error_iff own).mp replied
  simpa [Command.refusal?, there] using refused

theorem refusal_of_setFetchMode {style : FetchStyle} {args : List Argument}
    (replied : (setFetchMode name style args s).1 = some (.error e)) :
    (Command.setFetchMode name style args).refusal? s = some e := by
  cases found : s.statement? name with
  | none =>
    rw [setFetchMode_missing found] at replied
    cases replied
  | some known =>
    rw [setFetchMode_found found, Statement.setFetchMode] at replied
    simp only [Command.refusal?, found, Option.bind_some]
    cases chosen : StyledCall.setFetchMode.chooseMode known.2.classes s.objects (some style) args with
    | ok mode =>
      simp [chosen] at replied
    | error e' =>
      simpa [chosen] using replied

theorem Command.isFromEngine_of_refusedWith {command : Command}
    (own : command.refusedWith e = true) : e.isFromEngine = false := by
  cases command with
  | operate connection op keepAs =>
    cases op with
    | queryStyle => exact Error.isFromEngine_of_isArgument own
    | begin | commit | rollBack => exact Error.isFromEngine_of_isSequence own
    | exec | query | queryMode | prepare => cases own
  | setFetchMode => exact Error.isFromEngine_of_isArgument own
  | _ => cases own

/-- An error that a command raises without the engine is what the session had against it. -/
theorem refusal_of_error {command : Command}
    (ended : command.error? (command.perform eng s).1 = some e)
    (own : command.refusedWith e = true) : command.refusal? s = some e := by
  cases command with
  | operate connection op keepAs =>
    rcases replied : ((Command.operate connection op keepAs).perform eng s).1 with _ | (e' | reply)
    all_goals rw [replied] at ended
    · cases ended
    · cases ended
      exact refusal_of_operation replied (Command.isFromEngine_of_refusedWith own)
    · cases ended
  | setFetchMode name style args =>
    rcases replied : ((Command.setFetchMode name style args).perform eng s).1 with _ | (e' | reply)
    all_goals rw [replied] at ended
    · cases ended
    · cases ended
      exact refusal_of_setFetchMode replied
    · cases ended
  | _ => cases own

end Refused

/-- The command ends in the error and does nothing else: the session is as before, the engine is not
called, and under every error mode of every connection it ends in the same way. -/
structure Command.EndsBefore (eng : Engine σ) (command : Command) (s : Session σ) (e : Error) :
    Prop where
  code : e.code = 0
  unchanged : (command.perform eng s).2 = s
  uncalled : command.calls eng s = []
  everyMode : ∀ id mode, command.error? (command.perform eng (s.under id mode)).1 = some e ∧
    (command.perform eng (s.under id mode)).2 = s.under id mode ∧ command.calls eng (s.under id mode) = []

/-- A refusal is known without a call. -/
theorem calls_of_refusal (eng : Engine σ) {command : Command}
    (refused : command.refusal? s = some e) : command.calls eng s = [] := by
  have same : command.refusal? s.logged = command.refusal? s := by cases command <;> rfl
  have unchanged := (perform_of_refusal eng.logged (same.trans refused)).2
  rw [Command.calls, unchanged]
  rfl

theorem endsBefore_of_refusal (eng : Engine σ) {command : Command}
    (refused : command.refusal? s = some e) (own : e.isFromEngine = false) :
    command.EndsBefore eng s e where
  code := Error.code_of_isFromEngine own
  unchanged := (perform_of_refusal eng refused).2
  uncalled := calls_of_refusal eng refused
  everyMode id mode := by
    have refused := (command.refusal?_under s id mode).trans refused
    have ended := perform_of_refusal eng refused
    exact ⟨ended.1, ended.2, calls_of_refusal eng refused⟩

def Command.OutOfSequence (eng : Engine σ) (command : Command) (s : Session σ) : Prop :=
  ∃ e, command.error? (command.perform eng s).1 = some e ∧ e.isSequence = true

theorem outOfSequence_iff (eng : Engine σ) (there : s.atWork? connection = some (id, c))
    (verb : ∀ e, (Command.operate connection op keepAs).refusedWith e = e.isSequence) :
    (Command.operate connection op keepAs).OutOfSequence eng s ↔
      ∃ e, op.refusal? c.state = some e ∧ e.isSequence = true := by
  have refusal : (Command.operate connection op keepAs).refusal? s = op.refusal? c.state := by
    simp [Command.refusal?, there]
  rw [← refusal]
  constructor
  · rintro ⟨e, ended, sequence⟩
    exact ⟨e, refusal_of_error ended ((verb e).trans sequence), sequence⟩
  · rintro ⟨e, refused, sequence⟩
    exact ⟨e, (perform_of_refusal eng refused).1, sequence⟩

/-- Take any session. If a query with a style or the choice of a statement's mode ends in an error of its
arguments, or a transaction verb in one of its sequence, then this is all that happens: no connection
and no statement changes in any respect, nothing is logged, and the engine is not called. The error has
the code 0 and is returned under every error mode. To begin ends out of sequence exactly while a
transaction is active, and to commit or to roll back exactly while none is. -/
theorem refused_commands_touch_nothing (eng : Engine σ) (s : Session σ) :
    (∀ (command : Command) (e : Error), command.error? (command.perform eng s).1 = some e →
      command.refusedWith e = true → command.EndsBefore eng s e) ∧
    ∀ connection keepAs id c, s.atWork? connection = some (id, c) →
      ((Command.operate connection .begin keepAs).OutOfSequence eng s ↔
        c.state.inTransaction = true) ∧
      ((Command.operate connection .commit keepAs).OutOfSequence eng s ↔
        c.state.inTransaction = false) ∧
      ((Command.operate connection .rollBack keepAs).OutOfSequence eng s ↔
        c.state.inTransaction = false) := by
  constructor
  · intro command e ended own
    exact endsBefore_of_refusal eng (refusal_of_error ended own)
      (Command.isFromEngine_of_refusedWith own)
  · intro connection keepAs id c there
    refine ⟨?_, ?_, ?_⟩
    · rw [outOfSequence_iff eng there fun _ => rfl]
      exact Transaction.refuses_iff .begin
    · rw [outOfSequence_iff eng there fun _ => rfl]
      exact Transaction.refuses_iff .commit
    · rw [outOfSequence_iff eng there fun _ => rfl]
      exact Transaction.refuses_iff .rollBack

/-- A connection that warns of failures and has a transaction open, with one statement. -/
def warned : Session Recording :=
  let state : Connection.State :=
    { Connection.State.ofOptions .standard with errorMode := .warning, transaction := .active }
  { start (.ofEvents []) with
    live := .insert .empty 0 ⟨⟨0⟩, state⟩
    connections := .insert .empty "c" ⟨0, .empty⟩
    statements := .insert .empty "q" ⟨0, .ofSql "SELECT 1" none⟩
    nextId := 1 }

/-- A second begin, a query with a class mode that names no class and the choice of a target that is no
object all end before anything happens. -/
theorem refused_commands_touch_nothing_warned :
    let eng := Recording.engine
    let begin := Command.operate "c" .begin "s"
    let query := Command.operate "c" (.queryStyle .empty "SELECT 1" (some .ofClass) []) "s"
    let choose := Command.setFetchMode "q" .into [.scalar (.int 7)]
    begin.EndsBefore eng warned Transaction.alreadyActive ∧
      query.EndsBefore eng warned (.count ⟨.query, .atLeast, 3, 2⟩) ∧
      choose.EndsBefore eng warned (.type (some 2)
        "PDOStatement::setFetchMode(): Argument #2 must be of type object, int given") ∧
      begin.OutOfSequence eng warned ∧
      ¬(Command.operate "c" .commit "s").OutOfSequence eng warned := by
  intro eng begin query choose
  obtain ⟨ends, sequence⟩ := refused_commands_touch_nothing eng warned
  obtain ⟨active, idle, -⟩ := sequence "c" "s" 0 _ rfl
  refine ⟨?_, ?_, ?_, active.mpr rfl, fun out => ?_⟩
  · exact ends begin _ rfl rfl
  · exact ends query _ rfl rfl
  · exact ends choose _ (by decide +kernel) rfl
  · cases idle.mp out

end SqlBridge.Session
