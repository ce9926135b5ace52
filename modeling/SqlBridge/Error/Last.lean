import SqlBridge.Error

/-! # The last error of a handle

What a handle remembers of its last operation: SQLSTATE, engine code and
message. After a success it holds the SQLSTATE 00000 and nothing else.
-/

namespace SqlBridge

structure LastError where
  sqlstate : String
  code : Option Int
  message : Option String
deriving DecidableEq

namespace LastError

def successState : String := "00000"

def success : LastError := ⟨successState, none, none⟩

def ofError : Error → LastError
  | .query e => ⟨e.sqlstate, e.code, some e.message⟩
  | .connect e => ⟨generalState, e.code, some e.message⟩
  | e => ⟨generalState, none, some e.text⟩

def isSuccess (last : LastError) : Bool := last.sqlstate == successState

/-- The parts that are present, in brackets. -/
def text (last : LastError) : String :=
  let code := last.code.elim "" (", " ++ Decimal.intText ·)
  let message := last.message.elim "" (", " ++ ·)
  "[" ++ last.sqlstate ++ code ++ message ++ "]"

end LastError
end SqlBridge
