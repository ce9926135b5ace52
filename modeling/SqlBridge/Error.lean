import SqlBridge.Decimal.Digits

/-! # Errors

An error is a cause. Failures to connect and failures of queries come from the
engine or stand for it; wrong counts and types of arguments, unknown classes and
verbs out of sequence are found before the engine is asked and carry the code 0.
The text of each error is written here.
-/

namespace SqlBridge

/-- The calls that report errors under their own name. -/
inductive Method where
  | exec
  | query
  | prepare
  | beginTransaction
  | commit
  | rollBack
  | execute
  | setFetchMode
deriving DecidableEq

def Method.label : Method → String
  | exec => "PDO::exec()"
  | query => "PDO::query()"
  | prepare => "PDO::prepare()"
  | beginTransaction => "PDO::beginTransaction()"
  | commit => "PDO::commit()"
  | rollBack => "PDO::rollBack()"
  | execute => "PDOStatement::execute()"
  | setFetchMode => "PDOStatement::setFetchMode()"

/-- The stage at which connecting failed: the driver was unknown, a key was missing, the storage
could not be opened, or the opened handle could not be set up. -/
inductive ConnectStage where
  | driver
  | dsn
  | opening
  | setup
deriving DecidableEq

namespace ConnectStage

def all : List ConnectStage := [driver, dsn, opening, setup]

def label : ConnectStage → String
  | driver => "Driver"
  | dsn => "Dsn"
  | opening => "Open"
  | setup => "Setup"

def ofLabel? (s : String) : Option ConnectStage := all.find? (·.label == s)

end ConnectStage

structure ConnectFailure where
  stage : ConnectStage
  code : Option Int
  message : String
  cause : Option String
deriving DecidableEq

inductive FailureClass where
  | malformed
  | constraint
  | notFound
  | permission
  | truncation
  | busy
  | cancelled
  | database
  | general
deriving DecidableEq

def FailureClass.label : FailureClass → String
  | malformed => "Syntax"
  | constraint => "Constraint"
  | notFound => "NotFound"
  | permission => "Permission"
  | truncation => "DataTruncation"
  | busy => "Busy"
  | cancelled => "Cancelled"
  | database => "Database"
  | general => "General"

structure QueryFailure where
  kind : FailureClass
  sql : Option String
  sqlstate : String
  code : Option Int
  message : String
deriving DecidableEq

/-- The side of the allowed range that a number of arguments violates. -/
inductive CountBound where
  | exactly
  | atLeast
  | atMost
deriving DecidableEq

namespace CountBound

def all : List CountBound := [exactly, atLeast, atMost]

def label : CountBound → String
  | exactly => "exactly"
  | atLeast => "at least"
  | atMost => "at most"

def ofLabel? (s : String) : Option CountBound := all.find? (·.label == s)

end CountBound

structure CountError where
  method : Method
  bound : CountBound
  expected : Nat
  given : Nat
deriving DecidableEq

inductive Error where
  | connect (e : ConnectFailure)
  | query (e : QueryFailure)
  | count (e : CountError)
  | type (argument : Option Nat) (message : String)
  | unknownClass (name : String)
  | sequence (message : String)
deriving DecidableEq

/-- The SQLSTATE of failures that have no class of their own. -/
def generalState : String := "HY000"

def describeState (sqlstate : String) : String :=
  if sqlstate = "00000" then "No error"
  else if sqlstate = "01002" then "Disconnect error"
  else if sqlstate = "22001" then "String data, right truncated"
  else if sqlstate = "23000" then "Integrity constraint violation"
  else if sqlstate = "42000" then "Syntax error or access violation"
  else if sqlstate = "42S02" then "Base table or view not found"
  else if sqlstate = "HYC00" then "Optional feature not implemented"
  else if sqlstate = "HY000" then "General error"
  else "<<Unknown error>>"

/-- Only a failed opening that has an engine code shows its SQLSTATE. -/
def ConnectFailure.text (e : ConnectFailure) : String :=
  match e.stage, e.code with
  | .opening, some code => "SQLSTATE[HY000] [" ++ Decimal.intText code ++ "] " ++ e.message
  | _, _ => e.message

namespace QueryFailure

def ofMessage (message : String) : QueryFailure := ⟨.general, none, generalState, none, message⟩

def violatesConstraint (e : QueryFailure) : Bool := e.sqlstate == "23000"

def text (e : QueryFailure) : String :=
  let start := "SQLSTATE[" ++ e.sqlstate ++ "]: " ++ describeState e.sqlstate ++ ": "
  match e.code with
  | some code => start ++ Decimal.intText code ++ " " ++ e.message
  | none => start ++ e.message

end QueryFailure

def CountError.text (e : CountError) : String :=
  e.method.label ++ " expects " ++ e.bound.label ++ " " ++ Decimal.natText e.expected ++
    " arguments for the fetch mode provided, " ++ Decimal.natText e.given ++ " given"

namespace Error

def text : Error → String
  | connect e => e.text
  | query e => e.text
  | count e => e.text
  | type _ message => message
  | unknownClass name => "Class \"" ++ name ++ "\" not found"
  | sequence message => message

/-- The engine's code, or 0 where the engine gave none. -/
def code : Error → Int
  | connect e => e.code.getD 0
  | query e => e.code.getD 0
  | _ => 0

def sqlstate? : Error → Option String
  | query e => some e.sqlstate
  | connect e => if e.stage = .opening then some generalState else none
  | _ => none

def sql? : Error → Option String
  | query e => e.sql
  | _ => none

/-- Only errors of the engine are subject to the error mode. -/
def isFromEngine : Error → Bool
  | connect _ | query _ => true
  | _ => false

def cause? : Error → Option String
  | connect e => e.cause
  | _ => none

end Error
end SqlBridge
