import SqlBridge.Value

/-! # Rows and their columns

Columns have a name, which may repeat, and a declared type where the engine
knows one. A name stands for the last column that carries it. A row pairs the
columns of its result with the values that the engine returned.
-/

namespace SqlBridge

/-- Names and declared types, one type slot for each name. -/
structure Columns where
  names : List String
  types : List (Option String)
deriving DecidableEq

namespace Columns

def empty : Columns := ⟨[], []⟩

/-- Cut or fill the declared types to the number of names. -/
def ofTypes (names : List String) (types : List (Option String)) : Columns :=
  ⟨names, types.take names.length ++ List.replicate (names.length - types.length) none⟩

def count (c : Columns) : Nat := c.names.length

/-- The last position of a name, where `i` is the position of the first of the names. -/
def lastIndexFrom (i : Nat) (name : String) : List String → Option Nat
  | [] => none
  | n :: rest => (lastIndexFrom (i + 1) name rest).or (if n = name then some i else none)

def lastIndex? (c : Columns) (name : String) : Option Nat := lastIndexFrom 0 name c.names

def contains (c : Columns) (name : String) : Bool := (c.lastIndex? name).isSome

def name? (c : Columns) (i : Nat) : Option String := c.names[i]?

def type? (c : Columns) (i : Nat) : Option String := c.types[i]?.join

end Columns

structure Row where
  columns : Columns
  values : List Value
deriving DecidableEq

namespace Row

def size (r : Row) : Nat := r.values.length

def get? (r : Row) (i : Nat) : Option Value := r.values[i]?

def byName? (r : Row) (name : String) : Option Value := (r.columns.lastIndex? name).bind r.get?

def pairs (r : Row) : List (String × Value) := r.columns.names.zip r.values

end Row

/-- What one run of a statement produced. -/
structure RunResult where
  columns : Columns
  rows : List Row
  changes : Nat
deriving DecidableEq

def RunResult.empty : RunResult := ⟨.empty, [], 0⟩

end SqlBridge
