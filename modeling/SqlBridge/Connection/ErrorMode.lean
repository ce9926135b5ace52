/-! # Error modes

The error mode of a connection says how a failure of the engine reaches the
caller: as a bare failure value, as a failure value with a warning, or as the
error itself.
-/

namespace SqlBridge

inductive ErrorMode where
  | silent
  | warning
  | exception
deriving DecidableEq

namespace ErrorMode

def all : List ErrorMode := [silent, warning, exception]

def label : ErrorMode → String
  | silent => "Silent"
  | warning => "Warning"
  | exception => "Exception"

def ofLabel? (s : String) : Option ErrorMode := all.find? (·.label == s)

def code : ErrorMode → Int
  | silent => 0
  | warning => 1
  | exception => 2

def ofCode? (code : Int) : Option ErrorMode := all.find? (·.code == code)

theorem ofCode?_code (m : ErrorMode) : ofCode? m.code = some m := by cases m <;> rfl

end ErrorMode
end SqlBridge
