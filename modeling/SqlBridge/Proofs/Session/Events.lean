import SqlBridge.Proofs.Session.Command
import SqlBridge.Proofs.Session.Fetch

/-! # The outcomes that a run reports

Every connection and every statement has a slot for the outcome that was
reported to it last. The events of a run say when slots are opened and which
outcomes are reported to them. They are read off the commands and the sessions
in which these are performed, and do not look at the slots. A constructor that
calls back is a caller like any other: its requests are events of their own.
-/

namespace SqlBridge.Session
variable {σ α : Type}

/-- What keeps a last error. -/
inductive Slot where
  | connection (id : ConnectionId)
  | statement (name : String)
deriving DecidableEq

inductive Event where
  | opened (slot : Slot)
  | succeeded (slot : Slot)
  | failed (slot : Slot) (e : Error)

namespace Event

def slot : Event → Slot
  | opened slot | succeeded slot | failed slot _ => slot

def info : Event → LastError
  | opened _ | succeeded _ => .success
  | failed _ e => .ofError e

def isFailure : Event → Bool
  | opened _ | succeeded _ => false
  | failed _ _ => true

end Event

def latest? (slot : Slot) (events : List Event) : Option Event :=
  events.reverse.find? fun e => e.slot = slot

theorem latest?_append (slot : Slot) (before after : List Event) :
    latest? slot (before ++ after) = (latest? slot after).or (latest? slot before) := by
  rw [latest?, List.reverse_append, List.find?_append]
  rfl

/-- An outcome is reported if it is a success or an error of the engine. -/
def reported (slot : Slot) : Except Error α → List Event
  | .ok _ => [.succeeded slot]
  | .error e => if e.isFromEngine then [.failed slot e] else []

variable (eng : Engine σ)

/-- The outcome of an operation, as far as it is reported. -/
def operationEvents (connection : String) (op : Connection.Operation) (s : Session σ) :
    List Event :=
  match s.atWork? connection with
  | none => []
  | some (id, c) => reported (.connection id) (op.outcome eng c s.engine)

def handed? (op : Connection.Operation) (result : Option (Except Error op.Reply)) :
    Option Statement :=
  result.bind fun reply => reply.toOption.bind op.made?

def keptEvents (keepAs : String) : Option Statement → List Event
  | some _ => [.opened (.statement keepAs)]
  | none => []

def executeEvents (name : String) (params : List Value) (s : Session σ) : List Event :=
  match s.statements.get? name with
  | none => []
  | some st =>
    match s.live.get? st.owner with
    | none => []
    | some c =>
      reported (.statement name) (eng.run c.handle st.statement.sql params s.engine).1

/-- The operation that a request asks for, unless it asks for an attribute or a reading. -/
def operation? : Request → Option Connection.Operation
  | .exec sql => some (.exec sql)
  | .begin => some .begin
  | .commit => some .commit
  | .rollBack => some .rollBack
  | .setAttribute _ _ | .inTransaction | .errorCode => none

def requestEvents (connection : String) (r : Request) (s : Session σ) : List Event :=
  match operation? r with
  | none => []
  | some op => operationEvents eng connection op s

/-- The events of the requests that work makes, each in the session that it finds. -/
def calloutEvents : Callout α → Session σ → List Event
  | .done _, _ => []
  | .ask connection r next, s =>
    requestEvents eng connection r s ++
      calloutEvents (next (respond eng connection r s).1) (respond eng connection r s).2

def fetchEvents (name : String) (mode : Option FetchMode) (s : Session σ) : List Event :=
  match s.statement? name with
  | none => []
  | some (st, state) => calloutEvents eng (st.statement.fetch state mode s.objects) s

def fetchUpToEvents (name : String) (mode : Option FetchMode) : Nat → Session σ → List Event
  | 0, _ => []
  | n + 1, s =>
    fetchEvents eng name mode s ++
      match fetch eng name mode s with
      | (some (.ok (some _)), s') => fetchUpToEvents name mode n s'
      | _ => []

def fetchAllEvents (name : String) (mode : Option FetchMode) (s : Session σ) : List Event :=
  match s.statements.get? name with
  | none => []
  | some st => fetchUpToEvents eng name mode st.statement.remaining s

namespace Command

/-- Can the command report an outcome to a connection? A fetch can, by calling back. -/
def mayReport : Command → Bool
  | connect _ _ _ | operate _ _ _ | fetch _ _ | fetchAll _ _ => true
  | _ => false

/-- The events of a command. Those that are not listed neither open a slot nor report an outcome. -/
def events : Command → Session σ → List Event
  | connect name dsn options, s =>
    match (Session.connect eng name dsn options s).1 with
    | .ok _ => [.opened (.connection s.nextId)]
    | .error _ => []
  | operate connection op keepAs, s =>
    operationEvents eng connection op s ++
      keptEvents keepAs (handed? op (performOperation eng connection keepAs op s).1)
  | execute name params, s => executeEvents eng name params s
  | fetch name mode, s => fetchEvents eng name mode s
  | fetchAll name mode, s => fetchAllEvents eng name mode s
  | _, _ => []

end Command

def history : List Command → Session σ → List Event
  | [], _ => []
  | command :: rest, s => command.events eng s ++ history rest (command.perform eng s).2

end SqlBridge.Session
