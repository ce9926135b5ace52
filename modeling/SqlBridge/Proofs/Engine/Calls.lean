import SqlBridge.Engine

/-! # The calls of an engine

An engine can be wrapped so that its state also holds the calls that were made
of it. What a program does to the wrapped engine is what it does to the engine
itself, and shows besides which calls it made, with which arguments and in which
order.
-/

namespace SqlBridge
variable {σ α κ : Type}

/-- A step that also writes itself down. -/
def noted (note : κ) (act : StateM σ α) : StateM (σ × List κ) α := fun p =>
  ((act p.1).1, (act p.1).2, p.2 ++ [note])

inductive Call where
  | connect (path : String) (flags : Nat)
  | setBusyTimeout (h : Handle) (limit : Nat)
  | defineText (h : Handle) (name value : String)
  | close (h : Handle)
  | execute (h : Handle) (sql : String)
  | compile (h : Handle) (sql : String) (offset : Nat)
  | parameterCount (h : Handle) (p : Program)
  | bind (h : Handle) (p : Program) (index : Nat) (cell : Cell)
  | columns (h : Handle) (p : Program)
  | step (h : Handle) (p : Program)
  | finalize (h : Handle) (p : Program)
  | changes (h : Handle)
  | totalChanges (h : Handle)
  | lastRowId (h : Handle)
  | autocommit (h : Handle)
  | lastFailure (h : Handle)
  | version

def Engine.logged (eng : Engine σ) : Engine (σ × List Call) where
  connect path flags := noted (.connect path flags) (eng.connect path flags)
  setBusyTimeout h limit := noted (.setBusyTimeout h limit) (eng.setBusyTimeout h limit)
  defineText h name value := noted (.defineText h name value) (eng.defineText h name value)
  close h := noted (.close h) (eng.close h)
  execute h sql := noted (.execute h sql) (eng.execute h sql)
  compile h sql offset := noted (.compile h sql offset) (eng.compile h sql offset)
  parameterCount h p := noted (.parameterCount h p) (eng.parameterCount h p)
  bind h p index cell := noted (.bind h p index cell) (eng.bind h p index cell)
  columns h p := noted (.columns h p) (eng.columns h p)
  step h p := noted (.step h p) (eng.step h p)
  finalize h p := noted (.finalize h p) (eng.finalize h p)
  changes h := noted (.changes h) (eng.changes h)
  totalChanges h := noted (.totalChanges h) (eng.totalChanges h)
  lastRowId h := noted (.lastRowId h) (eng.lastRowId h)
  autocommit h := noted (.autocommit h) (eng.autocommit h)
  lastFailure h := noted (.lastFailure h) (eng.lastFailure h)
  version := noted .version eng.version

end SqlBridge
