import SqlBridge.Object
import SqlBridge.Text.Ascii

/-! # Fetch modes

A fetch style is the bare number that a caller passes; a fetch mode adds what
the style needs: a class with constructor arguments, or a target object. Modes
are compared by style, by class without regard to ASCII case, by arguments as
values, and by the identity of the target.
-/

namespace SqlBridge

inductive FetchStyle where
  | assoc
  | num
  | both
  | object
  | ofClass
  | ofClassLate
  | into
  | named
deriving DecidableEq

namespace FetchStyle

/-- The bit that asks for the constructor to run before the properties are set. -/
def lateBit : Int := 1048576

def code : FetchStyle → Int
  | assoc => 2
  | num => 3
  | both => 4
  | object => 5
  | ofClass => 8
  | ofClassLate => 8 + lateBit
  | into => 9
  | named => 11

def all : List FetchStyle := [assoc, num, both, object, ofClass, ofClassLate, into, named]

def ofCode? (code : Int) : Option FetchStyle := all.find? (·.code == code)

theorem ofCode?_code (s : FetchStyle) : ofCode? s.code = some s := by cases s <;> decide

def label : FetchStyle → String
  | assoc => "Assoc"
  | num => "Num"
  | both => "Both"
  | object => "Obj"
  | ofClass => "Class"
  | ofClassLate => "ClassPropsLate"
  | into => "Into"
  | named => "Named"

def ofLabel? (s : String) : Option FetchStyle := all.find? (·.label == s)

def needsMore : FetchStyle → Bool
  | ofClass | ofClassLate | into => true
  | _ => false

end FetchStyle

inductive FetchMode where
  | both
  | num
  | assoc
  | named
  | object
  | ofClass (className : String) (args : List Value) (late : Bool)
  | into (target : ObjectId)
deriving DecidableEq

namespace FetchMode

def style : FetchMode → FetchStyle
  | both => .both
  | num => .num
  | assoc => .assoc
  | named => .named
  | object => .object
  | ofClass _ _ late => if late then .ofClassLate else .ofClass
  | into _ => .into

/-- The mode of a style that needs nothing more. -/
def ofStyle? : FetchStyle → Option FetchMode
  | .both => some both
  | .num => some num
  | .assoc => some assoc
  | .named => some named
  | .object => some object
  | .ofClass | .ofClassLate | .into => none

def sameAs : FetchMode → FetchMode → Bool
  | ofClass c args late, ofClass c' args' late' =>
    Text.foldCase c == Text.foldCase c' && Value.allSame args args' && late == late'
  | into t, into t' => t == t'
  | a, b => a.style = b.style

end FetchMode
end SqlBridge
