import SqlBridge.Decimal.Reader
import SqlBridge.Decimal.Significant
import SqlBridge.Json
import SqlBridge.Text.Blank

/-! # Values

The scalars that rows hold and that parameters carry, and their conversions.
Conversions to numbers read text leniently; conversion to text writes the one
form of each value, and stringification applies it to everything but null.
-/

namespace SqlBridge

inductive Value where
  | null
  | bool (b : Bool)
  | int (i : Int64)
  | float (x : Binary64)
  | text (s : String)
deriving DecidableEq

namespace Value

def isNull : Value → Bool
  | null => true
  | _ => false

/-- The name of the type in argument errors. -/
def typeName : Value → String
  | null => "null"
  | bool _ => "bool"
  | int _ => "int"
  | float _ => "float"
  | text _ => "string"

/-- Booleans, and integers other than zero. -/
def toBool? : Value → Option Bool
  | bool b => some b
  | int i => some (i != 0)
  | _ => none

/-- Integers, booleans as one and zero, and text that reads as an integer. -/
def toInt? : Value → Option Int64
  | int i => some i
  | bool b => some (if b then 1 else 0)
  | text s => (Decimal.readInt (Text.trim s.toList)).map Int64.ofInt
  | _ => none

/-- Floats, integers rounded to nearest, and text that reads as a number. -/
def toFloat? : Value → Option Binary64
  | float x => some x
  | int i => some (.ofInt i.toInt)
  | text s => Decimal.readFloat (Text.trim s.toList)
  | _ => none

def text? : Value → Option String
  | text s => some s
  | _ => none

def toText? : Value → Option String
  | null => none
  | bool b => some (if b then "1" else "0")
  | int i => some (Decimal.intText i.toInt)
  | float x => some x.text
  | text s => some s

/-- Every value but null as text. -/
def stringify (v : Value) : Value := v.toText?.elim null text

/-- JSON has no form for infinities and NaN, which become their text. -/
def toJson : Value → Json
  | null => .null
  | bool b => .bool b
  | int i => .int i.toInt
  | float x => if x.isFinite then .float x else .str x.text
  | text s => .str s

/-- Equality of values, by which floats compare as numbers. -/
def sameAs : Value → Value → Bool
  | null, null => true
  | bool a, bool b => a == b
  | int a, int b => a == b
  | float a, float b => a.numEq b
  | text a, text b => a == b
  | _, _ => false

def allSame : List Value → List Value → Bool
  | [], [] => true
  | a :: as, b :: bs => a.sameAs b && allSame as bs
  | _, _ => false

end Value
end SqlBridge
