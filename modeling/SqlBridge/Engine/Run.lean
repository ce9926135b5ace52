import SqlBridge.Engine.Storage
import SqlBridge.Row
import SqlBridge.Connection.Transaction

/-! # Running SQL text

A text may hold several statements. Each is compiled where the one before it
ended, run to its end and only then followed by the next; parameters belong to
the first. The result is that of the last statement. The first failure ends the
run with the engine's code and message.
-/

namespace SqlBridge

/-- The class of an engine result code, which its low byte decides. -/
def primaryCode (code : Int) : Int := code % 256

def stateOfCode (code : Int) : String :=
  let c := primaryCode code
  if c = 12 then "42S02"
  else if c = 9 then "01002"
  else if c = 22 then "HYC00"
  else if c = 18 then "22001"
  else if c = 19 then "23000"
  else "HY000"

def kindOfCode (code : Int) : FailureClass :=
  let c := primaryCode code
  if c = 19 then .constraint
  else if c = 5 ∨ c = 6 then .busy
  else if c = 3 ∨ c = 23 ∨ c = 8 then .permission
  else if c = 12 then .notFound
  else if c = 18 then .truncation
  else if c = 9 then .cancelled
  else .database

def engineError (code : Int) (message sql : String) : Error :=
  .query ⟨kindOfCode code, some sql, stateOfCode code, some code, message⟩

def tooBigCode : Int := 18

def rangeCode : Int := 25

/-- A counter of changes; a negative reading counts as none. -/
def changeCount (reading : Int) : Nat := reading.toNat

/-- The bytes by which a run goes on after a compilation: at least one, and all that is left if the
engine does not say. -/
def advance (left : Nat) (used : Option Nat) : Nat := max 1 (used.getD left)

theorem advance_pos (left : Nat) (used : Option Nat) : 0 < advance left used :=
  Nat.lt_of_lt_of_le Nat.one_pos (Nat.le_max_left _ _)

namespace Engine
variable {σ : Type} (eng : Engine σ) (h : Handle)

/-- The error that the engine last recorded on the handle. -/
def recordedError (sql : String) : StateM σ Error := do
  let f ← eng.lastFailure h
  return engineError f.code f.message sql

def executeText (sql : String) : StateM σ (Except Error Unit) := do
  if hasNul sql then return .error (nulError sql)
  match ← eng.execute h sql with
  | .ok () => return .ok ()
  | .error f => return .error (engineError f.code f.message sql)

def compileAt (sql : String) (offset : Nat) : StateM σ (Except Error Compilation) := do
  if maxTextLength < sql.utf8ByteSize - offset then
    return .error (engineError tooBigCode "statement too long" sql)
  match ← eng.compile h sql offset with
  | .ok c => return .ok c
  | .error _ => return .error (← eng.recordedError h sql)

/-- Bind values to the positions from `i` on, of which the statement accepts `accepted`. -/
def bindFrom (program : Program) (sql : String) (accepted : Nat) :
    Nat → List Value → StateM σ (Except Error Unit)
  | _, [] => return .ok ()
  | i, v :: vs => do
    if accepted < i then return .error (engineError rangeCode "column index out of range" sql)
    match Cell.ofValue? v with
    | none => return .error (← eng.recordedError h sql)
    | some cell =>
      match ← eng.bind h program i cell with
      | .error _ => return .error (← eng.recordedError h sql)
      | .ok () => bindFrom program sql accepted (i + 1) vs

def readRow (columns : Columns) (cells : Nat → Cell) : Row :=
  ⟨columns, (List.range columns.count).map fun i => (cells i).toValue⟩

/-- Bind the values and step the statement to its end. -/
def runProgram (program : Program) (sql : String) (params : List Value) :
    StateM σ (Except Error RunResult) := do
  let accepted ← eng.parameterCount h program
  match ← eng.bindFrom h program sql accepted 1 params with
  | .error e => return .error e
  | .ok () =>
    let described ← eng.columns h program
    let columns := Columns.ofTypes (described.map Prod.fst) (described.map Prod.snd)
    let before ← eng.totalChanges h
    let stepping ← eng.step h program
    match stepping.failure with
    | some _ => return .error (← eng.recordedError h sql)
    | none =>
      let rows := stepping.rows.map (readRow columns)
      let after ← eng.totalChanges h
      if changeCount after = changeCount before then return .ok ⟨columns, rows, 0⟩
      else return .ok ⟨columns, rows, changeCount (← eng.changes h)⟩

/-- Run the statements from a byte offset on; `result` is that of the last one before it. -/
def runFrom (sql : String) (params : List Value) (offset : Nat) (result : RunResult) :
    StateM σ (Except Error RunResult) :=
  if offset < sql.utf8ByteSize then do
    match ← eng.compileAt h sql offset with
    | .error e => return .error e
    | .ok c =>
      match c.program with
      | none => runFrom sql params (offset + advance (sql.utf8ByteSize - offset) c.used) result
      | some program =>
        let outcome ← eng.runProgram h program sql params
        eng.finalize h program
        match outcome with
        | .error e => return .error e
        | .ok next => runFrom sql [] (offset + advance (sql.utf8ByteSize - offset) c.used) next
  else return .ok result
termination_by sql.utf8ByteSize - offset
decreasing_by
  all_goals
    have := advance_pos (sql.utf8ByteSize - offset) c.used
    omega

/-- Run every statement of a text, the first one with parameters. -/
def run (sql : String) (params : List Value) : StateM σ (Except Error RunResult) := do
  if hasNul sql then return .error (nulError sql)
  eng.runFrom h sql params 0 .empty

/-- Compile the statements from a byte offset on. -/
def compileFrom (sql : String) (offset : Nat) : StateM σ (Except Error Unit) :=
  if offset < sql.utf8ByteSize then do
    match ← eng.compileAt h sql offset with
    | .error e => return .error e
    | .ok c =>
      if let some program := c.program then eng.finalize h program
      compileFrom sql (offset + advance (sql.utf8ByteSize - offset) c.used)
  else return .ok ()
termination_by sql.utf8ByteSize - offset
decreasing_by
  have := advance_pos (sql.utf8ByteSize - offset) c.used
  omega

/-- Compile every statement of a text and run none. -/
def compileAll (sql : String) : StateM σ (Except Error Unit) := do
  if hasNul sql then return .error (nulError sql)
  eng.compileFrom h sql 0

def transactionVerbs : TransactionVerbs σ where
  begin := eng.executeText h "BEGIN"
  commit := eng.executeText h "COMMIT"
  rollBack := eng.executeText h "ROLLBACK"
  inTransaction := do return !(← eng.autocommit h)

end Engine
end SqlBridge
