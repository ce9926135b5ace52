import SqlBridge.Class.Callout

/-! # Classes

Classes that fetches can make objects of, found by name. A name may carry one
leading backslash, and the case of its ASCII letters does not matter. A new
table knows the class of plain property bags; inserting a name again replaces
the class.
-/

namespace SqlBridge

/-- A constructor changes an object, and may fail; what it changed before it failed stays. -/
abbrev Constructor := Object → List Value → Callout (Object × Except Error Unit)

structure ObjectClass where
  name : String
  constructor? : Option Constructor

namespace ObjectClass

def hasConstructor (c : ObjectClass) : Bool := c.constructor?.isSome

/-- An object of the class that its constructor has not seen yet. -/
def newObject (c : ObjectClass) : Object := .ofClass c.name

def runConstructor (c : ObjectClass) (o : Object) (args : List Value) :
    Callout (Object × Except Error Unit) :=
  match c.constructor? with
  | some f => f o args
  | none => .done (o, .ok ())

end ObjectClass

structure ClassTable where
  classes : OrderedMap String ObjectClass

namespace ClassTable

def dropBackslash : List Char → List Char
  | c :: cs => if c = '\\' then cs else c :: cs
  | [] => []

/-- The form in which names are compared. -/
def lookupName (name : String) : String :=
  Text.foldCase (String.ofList (dropBackslash name.toList))

def insert (t : ClassTable) (c : ObjectClass) : ClassTable :=
  ⟨t.classes.insert (lookupName c.name) c⟩

/-- A table with the class of plain property bags. -/
def standard : ClassTable := (⟨.empty⟩ : ClassTable).insert ⟨Object.standardClass, none⟩

def insertAll (t : ClassTable) (cs : List ObjectClass) : ClassTable := cs.foldl insert t

def find? (t : ClassTable) (name : String) : Option ObjectClass :=
  t.classes.get? (lookupName name)

def contains (t : ClassTable) (name : String) : Bool := (t.find? name).isSome

end ClassTable
end SqlBridge
