import SqlBridge.Connection.Transaction
import SqlBridge.Connection.Warning
import SqlBridge.Error.Last
import SqlBridge.Fetch.Layout

/-! # The state of a connection

The attributes of a connection, its last error and its transaction. A write to
an attribute is accepted as a whole or changes nothing. Outcomes of engine calls
are reported under the error mode, which decides what the caller sees; what is
recorded is the same in every mode.
-/

namespace SqlBridge

/-- What the caller, the last error and the log get of an outcome. -/
structure Report (α : Type) where
  result : Except Error (Option α)
  last : LastError
  warnings : List Warning

/-- Report an outcome. A success clears the last error; an error of the engine is recorded; any other
error is returned as it is. -/
def ErrorMode.report {α : Type} (mode : ErrorMode) (method : Method) (last : LastError) :
    Except Error α → Report α
  | .ok a => ⟨.ok (some a), .success, []⟩
  | .error e =>
    if e.isFromEngine then
      match mode with
      | .exception => ⟨.error e, .ofError e, []⟩
      | .warning => ⟨.ok none, .ofError e, [.failed method (LastError.ofError e).sqlstate e.text]⟩
      | .silent => ⟨.ok none, .ofError e, []⟩
    else ⟨.error e, last, []⟩

structure Connection.State where
  generation : Generation
  errorMode : ErrorMode
  defaultMode : FetchMode
  stringify : Bool
  classes : ClassTable
  lastError : LastError
  transaction : Transaction

namespace Connection.State

def ofOptions (o : ConnectionOptions) : State where
  generation := o.generation
  errorMode := o.startingErrorMode
  defaultMode := o.defaultMode
  stringify := o.stringify
  classes := o.classes
  lastError := .success
  transaction := .idle

def inTransaction (s : State) : Bool := s.transaction.isActive

/-- The settings for laying out a row now. -/
def layoutSettings (s : State) : LayoutSettings := ⟨s.stringify, s.generation, s.classes⟩

/-- A default mode that names a class needs a class that is known. -/
def acceptsDefault (s : State) : FetchMode → Bool
  | .ofClass className _ _ => s.classes.contains className
  | _ => true

/-- The state after an accepted write, or nothing if the write is rejected. -/
def set? (s : State) : Attribute → AttributeValue → Option State
  | .errorMode, .errorMode mode => some { s with errorMode := mode }
  | .errorMode, .int code => (ErrorMode.ofCode? code).map fun mode => { s with errorMode := mode }
  | .defaultFetchMode, .fetchMode mode =>
    if s.acceptsDefault mode then some { s with defaultMode := mode } else none
  | .defaultFetchMode, .int code =>
    ((FetchStyle.ofCode? code).bind FetchMode.ofStyle?).map fun mode => { s with defaultMode := mode }
  | .stringifyFetches, .bool b => some { s with stringify := b }
  | .stringifyFetches, .int i => some { s with stringify := i != 0 }
  | _, _ => none

/-- Write an attribute: whether it was accepted, the state after it and the warning otherwise. -/
def set (s : State) (attr : Attribute) (v : AttributeValue) : Bool × State × List Warning :=
  match s.set? attr v with
  | some s => (true, s, [])
  | none => (false, s, [.attributeRejected attr.code attr.isReadOnly])

def reportedDriver : String := "mysql"

/-- Read an attribute; `version` is the version of the engine. -/
def get? (s : State) (version : String) : Attribute → Option AttributeValue
  | .errorMode => some (.errorMode s.errorMode)
  | .defaultFetchMode => some (.fetchMode s.defaultMode)
  | .stringifyFetches => some (.bool s.stringify)
  | .driverName => some (.text reportedDriver)
  | .serverVersion | .clientVersion => some (.text version)
  | .other _ => none

end Connection.State
end SqlBridge
