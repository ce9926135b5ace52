import SqlBridge.Binary64

/-! # JSON trees

Trees for rendered rows. An object lists its members in the order of their
names, code point by code point, and holds each name once: a later member
replaces an earlier one of the same name.
-/

namespace SqlBridge

inductive Json where
  | null
  | bool (b : Bool)
  | int (i : Int)
  | float (x : Binary64)
  | str (s : String)
  | arr (items : List Json)
  | obj (members : List (String × Json))

namespace Json
variable {α : Type}

/-- Put a member in its place by name, over a member of the same name. -/
def addMember (name : String) (value : α) : List (String × α) → List (String × α)
  | [] => [(name, value)]
  | (n, v) :: rest =>
    if name = n then (name, value) :: rest
    else if name < n then (name, value) :: (n, v) :: rest
    else (n, v) :: addMember name value rest

def members (pairs : List (String × α)) : List (String × α) :=
  pairs.foldl (fun ms p => addMember p.1 p.2 ms) []

def object (pairs : List (String × Json)) : Json := .obj (members pairs)

end Json
end SqlBridge
