import SqlBridge.OrderedMap
import SqlBridge.Value

/-! # Objects

An object has a class name and named properties in the order in which they were
first set. Objects that callers share are kept in a store and named by a
reference; every holder of the reference sees every change.
-/

namespace SqlBridge

structure Object where
  className : String
  properties : OrderedMap String Value

namespace Object

/-- The class of plain property bags. -/
def standardClass : String := "stdClass"

def ofClass (className : String) : Object := ⟨className, .empty⟩

def standard : Object := ofClass standardClass

def get? (o : Object) (name : String) : Option Value := o.properties.get? name

/-- Set a property; one that exists keeps its position. -/
def set (o : Object) (name : String) (v : Value) : Object :=
  { o with properties := o.properties.insert name v }

def assign (o : Object) (pairs : List (String × Value)) : Object :=
  pairs.foldl (fun o p => o.set p.1 p.2) o

def size (o : Object) : Nat := o.properties.size

def toJson (o : Object) : Json :=
  .object (o.properties.entries.map fun p => (p.1, p.2.toJson))

end Object

/-- The name of a shared object. -/
abbrev ObjectId := Nat

/-- The shared objects by reference. -/
structure ObjectStore where
  objects : OrderedMap ObjectId Object

namespace ObjectStore

def empty : ObjectStore := ⟨.empty⟩

/-- The object of a reference; one that was never set is a plain empty object. -/
def get (s : ObjectStore) (ref : ObjectId) : Object := (s.objects.get? ref).getD .standard

def set (s : ObjectStore) (ref : ObjectId) (o : Object) : ObjectStore :=
  ⟨s.objects.insert ref o⟩

/-- Add an object under a reference that was not in use. -/
def add (s : ObjectStore) (o : Object) : ObjectId × ObjectStore :=
  let ref := s.objects.keys.foldl (fun n k => max n (k + 1)) 0
  (ref, s.set ref o)

@[simp] theorem get_set (s : ObjectStore) (ref : ObjectId) (o : Object) :
    (s.set ref o).get ref = o := by
  simp [get, set, OrderedMap.get?_insert]

end ObjectStore
end SqlBridge
