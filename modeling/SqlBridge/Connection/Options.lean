import SqlBridge.Class.Table
import SqlBridge.Generation

/-! # Options

The options with which a connection is opened. They fix the generation and the
classes for the life of the connection and give the attributes their first
values.
-/

namespace SqlBridge

structure ConnectionOptions where
  generation : Generation
  errorMode : Option ErrorMode
  defaultMode : FetchMode
  stringify : Bool
  readOnly : Bool
  busyTimeout : Nat
  classes : ClassTable

namespace ConnectionOptions

def standard : ConnectionOptions := ⟨.v81, none, .both, true, false, 5000, .standard⟩

/-- The error mode asked for, or else that of the generation. -/
def startingErrorMode (o : ConnectionOptions) : ErrorMode :=
  o.errorMode.getD o.generation.startingErrorMode

end ConnectionOptions
end SqlBridge
