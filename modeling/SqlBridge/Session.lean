import SqlBridge.Connection

/-! # Sessions

A session holds named connections and named statements. A connection and the
statements it made share one open handle, which stays open as long as one of
them is left and is closed with the last. Fetches may call back into any
connection by its name.
-/

namespace SqlBridge

abbrev ConnectionId := Nat

structure NamedConnection where
  id : ConnectionId
  params : Dsn.Params

/-- A statement and the shared connection that it belongs to. -/
structure OwnedStatement where
  owner : ConnectionId
  statement : Statement

structure Session (σ : Type) where
  engine : σ
  warnings : List Warning
  objects : ObjectStore
  live : OrderedMap ConnectionId Connection
  connections : OrderedMap String NamedConnection
  statements : OrderedMap String OwnedStatement
  nextId : ConnectionId

namespace Session
variable {σ α : Type}

def start (engine : σ) : Session σ := ⟨engine, [], .empty, .empty, .empty, .empty, 0⟩

def onShared (id : ConnectionId) (act : StateM (Running σ) α) : StateM (Session σ) (Option α) :=
  fun s =>
    match s.live.get? id with
    | none => (none, s)
    | some connection =>
      let (a, r) := act ⟨s.engine, connection, s.warnings⟩
      (some a, { s with
        engine := r.engine
        warnings := r.warnings
        live := s.live.insert id r.connection })

def onConnection (name : String) (act : StateM (Running σ) α) : StateM (Session σ) (Option α) := do
  match (← get).connections.get? name with
  | none => return none
  | some c => onShared c.id act

def isOwned (s : Session σ) (id : ConnectionId) : Bool :=
  s.connections.values.any (·.id == id) || s.statements.values.any (·.owner == id)

variable (eng : Engine σ)

/-- Close a shared connection if nothing refers to it any more. -/
def release (id : ConnectionId) : StateM (Session σ) Unit := do
  if !(← get).isOwned id then
    let _ ← onShared id (Connection.close eng)
    modify fun s => { s with live := s.live.erase id }

/-- Connect under a name. An earlier connection of that name is given up once the new one stands. -/
def connect (name dsn : String) (options : ConnectionOptions) :
    StateM (Session σ) (Except Error Dsn.Params) := do
  let s ← get
  let (outcome, engine) := Connection.connect eng dsn options s.engine
  match outcome with
  | .error e =>
    set { s with engine }
    return .error e
  | .ok (connection, params) =>
    set { s with
      engine
      live := s.live.insert s.nextId connection
      connections := s.connections.insert name ⟨s.nextId, params⟩
      nextId := s.nextId + 1 }
    if let some old := s.connections.get? name then release eng old.id
    return .ok params

/-- Drop a connection's name: whether there was one. Its statements keep the connection alive. -/
def disconnect (name : String) : StateM (Session σ) Bool := do
  match (← get).connections.get? name with
  | none => return false
  | some c =>
    modify fun s => { s with connections := s.connections.erase name }
    release eng c.id
    return true

/-- Free a statement: whether there was one. -/
def free (name : String) : StateM (Session σ) Bool := do
  match (← get).statements.get? name with
  | none => return false
  | some st =>
    modify fun s => { s with statements := s.statements.erase name }
    release eng st.owner
    return true

/-- Keep a statement under a name, in place of an earlier one. -/
def keep (name : String) (st : OwnedStatement) : StateM (Session σ) Unit := do
  let old := (← get).statements.get? name
  modify fun s => { s with statements := s.statements.insert name st }
  if let some old := old then release eng old.owner

/-- Let a connection make a statement and keep it under a name. -/
def makeStatement (connection name : String)
    (make : StateM (Running σ) (Except Error (Option Statement))) :
    StateM (Session σ) (Option (Except Error (Option Statement))) := do
  match (← get).connections.get? connection with
  | none => return none
  | some c =>
    let result ← onShared c.id make
    if let some (.ok (some st)) := result then keep eng name ⟨c.id, st⟩
    return result

/-- Answer a request by the connection that is meant; where there is none the answer is null. -/
def respond (connection : String) (r : Request) : StateM (Session σ) Answer := do
  return (← onConnection connection (Connection.respond eng r)).getD (.ok .null)

/-- The statement of a name and the present state of its connection. -/
def statement? (s : Session σ) (name : String) : Option (OwnedStatement × Connection.State) := do
  let st ← s.statements.get? name
  let c ← s.live.get? st.owner
  return (st, c.state)

def putStatement (name : String) (st : OwnedStatement) : StateM (Session σ) Unit :=
  modify fun s => { s with statements := s.statements.insert name st }

def execute (name : String) (params : List Value) :
    StateM (Session σ) (Option (Except Error Bool)) := do
  match (← get).statements.get? name with
  | none => return none
  | some st =>
    match ← onShared st.owner (Connection.execute eng st.statement params) with
    | none => return none
    | some (result, statement) =>
      putStatement name { st with statement }
      return some result

def fetch (name : String) (mode : Option FetchMode) :
    StateM (Session σ) (Option (Except Error (Option FetchedRow))) := do
  let s ← get
  match s.statement? name with
  | none => return none
  | some (st, state) =>
    let work := st.statement.fetch state mode s.objects
    let (result, statement, objects) ← work.run (respond eng)
    modify fun s => { s with objects }
    putStatement name { st with statement }
    return some result

/-- Fetch up to `n` rows, up to the end or the first failure. -/
def fetchUpTo (name : String) (mode : Option FetchMode) :
    Nat → StateM (Session σ) (Option (Except Error (List FetchedRow)))
  | 0 => return some (.ok [])
  | n + 1 => do
    match ← fetch eng name mode with
    | none => return none
    | some (.error e) => return some (.error e)
    | some (.ok none) => return some (.ok [])
    | some (.ok (some row)) =>
      let rest ← fetchUpTo name mode n
      return rest.map fun result => result.map (row :: ·)

/-- Fetch all remaining rows, each with the settings that the one before it left. -/
def fetchAll (name : String) (mode : Option FetchMode) :
    StateM (Session σ) (Option (Except Error (List FetchedRow))) := do
  match (← get).statements.get? name with
  | none => return none
  | some st => fetchUpTo eng name mode st.statement.remaining

def fetchColumn (name : String) (i : Nat) : StateM (Session σ) (Option (Option Value)) := do
  match (← get).statement? name with
  | none => return none
  | some (st, state) =>
    let (v, statement) := st.statement.fetchColumn state i
    putStatement name { st with statement }
    return some v

def setFetchMode (name : String) (style : FetchStyle) (args : List Argument) :
    StateM (Session σ) (Option (Except Error Bool)) := do
  let s ← get
  match s.statement? name with
  | none => return none
  | some (st, state) =>
    let (result, statement) := st.statement.setFetchMode state s.objects style args
    putStatement name { st with statement }
    return some result

def sortedNames {β : Type} (m : OrderedMap String β) : List String :=
  m.keys.mergeSort fun a b => decide (a ≤ b)

def freeAll : List String → StateM (Session σ) Unit
  | [] => return
  | name :: rest => do
    let _ ← free eng name
    freeAll rest

def disconnectAll : List String → StateM (Session σ) Unit
  | [] => return
  | name :: rest => do
    let _ ← disconnect eng name
    disconnectAll rest

/-- End the session: free every statement, then drop every connection, each in order of names. -/
def finish : StateM (Session σ) Unit := do
  freeAll eng (sortedNames (← get).statements)
  disconnectAll eng (sortedNames (← get).connections)

end Session
end SqlBridge
