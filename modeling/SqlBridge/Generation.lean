import SqlBridge.Connection.ErrorMode

/-! # Driver generations

A connection behaves like one of three generations of the driver. They differ in
the layout of rows keyed both ways, in whether native types survive a fetch, in
whether a null fetch mode is accepted and in the error mode that they start with.
-/

namespace SqlBridge

inductive Generation where
  | v7
  | v80
  | v81
deriving DecidableEq

namespace Generation

def all : List Generation := [v7, v80, v81]

def label : Generation → String
  | v7 => "V7"
  | v80 => "V80"
  | v81 => "V81"

def ofLabel? (s : String) : Option Generation := all.find? (·.label == s)

/-- Integers and floats are fetched as such; earlier generations only return text. -/
def keepsTypes : Generation → Bool
  | v81 => true
  | _ => false

/-- Rows keyed both ways append every column under the next free integer. -/
def appendsPositions : Generation → Bool
  | v7 => true
  | _ => false

/-- A null fetch mode stands for the default. -/
def allowsNullMode : Generation → Bool
  | v81 => true
  | _ => false

def startingErrorMode : Generation → ErrorMode
  | v7 => .silent
  | _ => .exception

end Generation
end SqlBridge
