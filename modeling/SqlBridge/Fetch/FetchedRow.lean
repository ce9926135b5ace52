import SqlBridge.Fetch.Key
import SqlBridge.Object

/-! # Fetched rows

A row as a fetch hands it out: a list, a map keyed by names and positions,
groups of values by name, an object, or a reference to the caller's own object.
Every form can be looked into by key and rendered as JSON.
-/

namespace SqlBridge

/-- The values that share one column name. -/
inductive ColumnGroup where
  | one (v : Value)
  | many (vs : List Value)
deriving DecidableEq

namespace ColumnGroup

def add (v : Value) : ColumnGroup → ColumnGroup
  | one first => many [first, v]
  | many vs => many (vs ++ [v])

def toJson : ColumnGroup → Json
  | one v => v.toJson
  | many vs => .arr (vs.map Value.toJson)

end ColumnGroup

inductive FetchedRow where
  | list (values : List Value)
  | map (entries : OrderedMap RowKey Value)
  | groups (entries : OrderedMap String ColumnGroup)
  | object (o : Object)
  | into (target : ObjectId)

namespace FetchedRow

/-- The value of a key; a group of several values is no value. -/
def get? (objects : ObjectStore) (key : RowKey) : FetchedRow → Option Value
  | list values =>
    match key with
    | .int i => if i < 0 then none else values[i.toNat]?
    | .name _ => none
  | map entries => entries.get? key
  | groups entries =>
    match entries.get? key.text with
    | some (.one v) => some v
    | _ => none
  | object o => o.get? key.text
  | into target => (objects.get target).get? key.text

def toJson (objects : ObjectStore) : FetchedRow → Json
  | list values => .arr (values.map Value.toJson)
  | map entries => .object (entries.entries.map fun p => (p.1.text, p.2.toJson))
  | groups entries => .object (entries.entries.map fun p => (p.1, p.2.toJson))
  | object o => o.toJson
  | into target => (objects.get target).toJson

end FetchedRow
end SqlBridge
