import SqlBridge.Engine

/-! # Recorded engines

An engine can be played back from what it was seen to do. The recording lists
the outcomes of its calls in order, and each call takes the next one. All calls
on a compiled statement are answered from the one event that compiled it.
Binding always succeeds, since the recorded rows are those for the bound values.
-/

namespace SqlBridge

structure RecordedRun where
  parameters : Nat
  columns : List (String × Option String)
  rows : List (List Cell)
  failure : Option Failure
  totalBefore : Int
  totalAfter : Int
  changes : Int

inductive EngineEvent where
  | done
  | failed (f : Failure)
  | blank (used : Nat)
  | compiled (used : Nat) (run : RecordedRun)
  | number (i : Int)
  | flag (b : Bool)
  | text (s : String)

structure Recording where
  events : List EngineEvent
  programs : List RecordedRun
  running : Option RecordedRun
  stepped : Bool
  failure : Failure

namespace Recording

def ofEvents (events : List EngineEvent) : Recording := ⟨events, [], none, false, ⟨0, "not an error"⟩⟩

/-- What a call fails with when its outcome was not recorded. -/
def missing : Failure := ⟨1, "no outcome recorded"⟩

def next : StateM Recording EngineEvent := fun r =>
  match r.events with
  | [] => (.failed missing, r)
  | e :: rest => (e, { r with events := rest })

/-- Take the next outcome and keep its failure as the last one. -/
def outcome : StateM Recording (Except Failure Unit) := do
  match ← next with
  | .failed f =>
    modify fun r => { r with failure := f }
    return .error f
  | _ => return .ok ()

def number : StateM Recording Int := do
  match ← next with
  | .number i => return i
  | _ => return 0

/-- A counter is read from the running statement, and otherwise from an event of its own. -/
def counter (ofRun : RecordedRun → Bool → Int) : StateM Recording Int := do
  let r ← get
  match r.running with
  | some run => return ofRun run r.stepped
  | none => number

/-- What was recorded of a compiled statement. -/
def ask {α : Type} (p : Program) (other : α) (f : RecordedRun → α) : StateM Recording α := do
  return ((← get).programs[p.id]?).elim other f

def compile : StateM Recording (Except Int Compilation) := do
  match ← next with
  | .compiled used run =>
    let id := (← get).programs.length
    modify fun r => { r with programs := r.programs ++ [run], running := some run, stepped := false }
    return .ok ⟨some ⟨id⟩, some used⟩
  | .blank used => return .ok ⟨none, some used⟩
  | .failed f =>
    modify fun r => { r with failure := f }
    return .error f.code
  | _ => return .ok ⟨none, none⟩

def step (p : Program) : StateM Recording Stepping := do
  let rows ← ask p [] fun run => run.rows.map fun cells i => (cells[i]?).getD .null
  modify fun r => { r with stepped := true }
  match ← ask p none (·.failure) with
  | none => return ⟨rows, none⟩
  | some f =>
    modify fun r => { r with failure := f }
    return ⟨rows, some f.code⟩

/-- The engine that plays a recording. -/
def engine : Engine Recording where
  connect _ _ := return (← outcome).map fun _ => ⟨0⟩
  setBusyTimeout _ _ := return
  defineText _ _ _ := return (← outcome).mapError (·.code)
  close _ := return
  execute _ _ := outcome
  compile _ _ _ := compile
  parameterCount _ p := ask p 0 (·.parameters)
  bind _ _ _ _ := return .ok ()
  columns _ p := ask p [] (·.columns)
  step _ p := step p
  finalize _ _ := modify fun r => { r with running := none }
  changes _ := counter fun run _ => run.changes
  totalChanges _ := counter fun run stepped => if stepped then run.totalAfter else run.totalBefore
  lastRowId _ := return Int64.ofInt (← number)
  autocommit _ := do
    match ← next with
    | .flag b => return b
    | _ => return true
  lastFailure _ := return (← get).failure
  version := do
    match ← next with
    | .text s => return s
    | _ => return ""

end Recording
end SqlBridge
