import SqlBridge.Dsn
import SqlBridge.Engine.Run
import SqlBridge.Statement

/-! # Connections

A connection is an open handle with its state. Operations run on a connection
together with the engine's state and the warnings logged so far. Outcomes of the
engine are reported under the error mode; faulty arguments and transaction verbs
out of sequence are refused before the engine is asked.
-/

namespace SqlBridge

structure Connection where
  handle : Handle
  state : Connection.State

/-- A connection at work: the engine's state, the connection and the log. -/
structure Running (σ : Type) where
  engine : σ
  connection : Connection
  warnings : List Warning

namespace Running
variable {σ α : Type}

def onEngine (act : StateM σ α) : StateM (Running σ) α := fun r =>
  ((act r.engine).1, { r with engine := (act r.engine).2 })

def readHandle : StateM (Running σ) Handle := return (← get).connection.handle

def readState : StateM (Running σ) Connection.State := return (← get).connection.state

def setState (s : Connection.State) : StateM (Running σ) Unit :=
  modify fun r => { r with connection := { r.connection with state := s } }

def log (ws : List Warning) : StateM (Running σ) Unit :=
  modify fun r => { r with warnings := r.warnings ++ ws }

def conclude (method : Method) (outcome : Except Error α) :
    StateM (Running σ) (Except Error (Option α)) := do
  let s ← readState
  let report := s.errorMode.report method s.lastError outcome
  setState { s with lastError := report.last }
  log report.warnings
  return report.result

end Running

namespace Connection
open Running
variable {σ : Type} (eng : Engine σ)

def driverError : Error := .connect ⟨.driver, none, "could not find driver", none⟩

def missingKey (key : String) : Error :=
  .connect ⟨.dsn, none, "The \"" ++ key ++ "\" option is required in the DSN", none⟩

/-- The keys of a data source name and the two values that it needs, or what it lacks. -/
def requirements (dsn : String) : Except Error (Dsn.Params × String × String) :=
  match Dsn.splitDriver dsn with
  | none => .error driverError
  | some (driver, body) =>
    if driver ≠ Dsn.driverName then .error driverError
    else
      let params := Dsn.parse body
      match params.path, params.dbname with
      | none, _ => .error (missingKey "path")
      | some _, none => .error (missingKey "dbname")
      | some path, some dbname => .ok (params, path, dbname)

def storage (options : ConnectionOptions) (path : String) : Storage :=
  ⟨path, if options.readOnly then .forReading else .forCreating, options.busyTimeout⟩

/-- The function that answers with the name of the database. -/
def databaseFunction : String := "DATABASE"

/-- Connect to what a data source name describes. Failures are errors in every error mode. -/
def connect (dsn : String) (options : ConnectionOptions) :
    StateM σ (Except Error (Connection × Dsn.Params)) := do
  match requirements dsn with
  | .error e => return .error e
  | .ok (params, path, dbname) =>
    match ← eng.openStorage (storage options path) with
    | .error e => return .error e
    | .ok h =>
      match ← eng.registerText h databaseFunction dbname with
      | .error e =>
        eng.close h
        return .error e
      | .ok () => return .ok (⟨h, .ofOptions options⟩, params)

def setAttribute (attr : Attribute) (v : AttributeValue) : StateM (Running σ) Bool := do
  let (accepted, s, warnings) := (← readState).set attr v
  setState s
  log warnings
  return accepted

/-- Read an attribute; only the versions are asked of the engine. -/
def getAttribute (attr : Attribute) : StateM (Running σ) (Option AttributeValue) := do
  let s ← readState
  match attr with
  | .serverVersion | .clientVersion => return s.get? (← onEngine eng.version) attr
  | _ => return s.get? "" attr

def runSql (sql : String) (params : List Value) : StateM (Running σ) (Except Error RunResult) := do
  let h ← readHandle
  onEngine (eng.run h sql params)

/-- Run a text and return the number of rows it changed. -/
def exec (sql : String) : StateM (Running σ) (Except Error (Option Nat)) := do
  let outcome ← runSql eng sql []
  conclude .exec (outcome.map (·.changes))

/-- Run a text and keep its result in a statement of the given mode. -/
def queryIn (mode : Option FetchMode) (sql : String) :
    StateM (Running σ) (Except Error (Option Statement)) := do
  let outcome ← runSql eng sql []
  let result ← conclude .query outcome
  return result.map fun r? => r?.map (Statement.ofSql sql mode).withResult

def query (sql : String) : StateM (Running σ) (Except Error (Option Statement)) :=
  queryIn eng none sql

def queryMode (sql : String) (mode : FetchMode) :
    StateM (Running σ) (Except Error (Option Statement)) :=
  queryIn eng (some mode) sql

def nullModeError : Error := .query (.ofMessage "mode must be an integer")

/-- Run a text with a fetch mode given as a style with further arguments, which are checked first.
Generations that do not allow a null mode report it like a failure of the engine. -/
def queryStyle (objects : ObjectStore) (sql : String) (style : Option FetchStyle)
    (args : List Argument) : StateM (Running σ) (Except Error (Option Statement)) := do
  let s ← readState
  if style.isNone && !s.generation.allowsNullMode then
    let rejected : Except Error Unit := .error nullModeError
    let result ← conclude .query rejected
    return result.map fun _ => none
  match StyledCall.query.chooseMode s.classes objects style args with
  | .error e => return .error e
  | .ok mode => queryIn eng mode sql

def prepare (sql : String) : StateM (Running σ) (Except Error (Option Statement)) := do
  let h ← readHandle
  let outcome ← onEngine (eng.compileAll h sql)
  let result ← conclude .prepare outcome
  return result.map fun done? => done?.map fun _ => .ofSql sql none

def transact (method : Method)
    (verb : TransactionVerbs σ → Transaction → StateM σ (Except Error Unit × Transaction)) :
    StateM (Running σ) (Except Error Bool) := do
  let h ← readHandle
  let s ← readState
  let (outcome, transaction) ← onEngine (verb (eng.transactionVerbs h) s.transaction)
  setState { s with transaction }
  let result ← conclude method outcome
  return result.map Option.isSome

def begin : StateM (Running σ) (Except Error Bool) :=
  transact eng .beginTransaction Transaction.begin

def commit : StateM (Running σ) (Except Error Bool) :=
  transact eng .commit Transaction.commit

def rollBack : StateM (Running σ) (Except Error Bool) :=
  transact eng .rollBack Transaction.rollBack

def lastInsertId : StateM (Running σ) Int64 := do
  let h ← readHandle
  onEngine (eng.lastRowId h)

def inTransaction : StateM (Running σ) Bool := return (← readState).inTransaction

def errorInfo : StateM (Running σ) LastError := return (← readState).lastError

def errorCode : StateM (Running σ) String := return (← readState).lastError.sqlstate

/-- Run a prepared statement. Its outcome is recorded in the statement, not in the connection. -/
def execute (st : Statement) (params : List Value) :
    StateM (Running σ) (Except Error Bool × Statement) := do
  let st := st.clear
  let outcome ← runSql eng st.sql params
  let report := (← readState).errorMode.report .execute st.error outcome
  log report.warnings
  let st := { st with error := report.last }
  match report.result with
  | .ok (some r) => return (.ok true, st.withResult r)
  | .ok none => return (.ok false, st)
  | .error e => return (.error e, st)

/-- Answer a request made during a fetch. -/
def respond : Request → StateM (Running σ) Answer
  | .setAttribute attr v => return .ok (.bool (← setAttribute attr v))
  | .exec sql => do
    let result ← exec eng sql
    return result.map fun n => n.elim .null fun n => .int (Int64.ofNat n)
  | .inTransaction => return .ok (.bool (← inTransaction))
  | .begin => return (← begin eng).map .bool
  | .commit => return (← commit eng).map .bool
  | .rollBack => return (← rollBack eng).map .bool
  | .errorCode => return .ok (.text (← errorCode))

/-- Close the connection; a transaction that is still open is rolled back first. -/
def close : StateM (Running σ) Unit := do
  let h ← readHandle
  let s ← readState
  if s.inTransaction then
    log [.rollingBack]
    let (outcome, transaction) ← onEngine (s.transaction.rollBack (eng.transactionVerbs h))
    setState { s with transaction }
    if let .error e := outcome then log [.rollbackFailed e.text]
  onEngine (eng.close h)

end Connection
end SqlBridge
