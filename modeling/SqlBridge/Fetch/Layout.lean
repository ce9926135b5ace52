import SqlBridge.Connection.Options
import SqlBridge.Fetch.FetchedRow
import SqlBridge.Row

/-! # Laying out rows

A fetch mode turns the columns of one row into a fetched row. Values are
stringified first where the settings ask for it. Class modes run the
constructor after the properties are set, or before if the mode is late; the
settings are those from before the constructor ran.
-/

namespace SqlBridge

/-- What the layout reads besides the row and the mode. -/
structure LayoutSettings where
  stringify : Bool
  generation : Generation
  classes : ClassTable

/-- Stringification is forced where native types do not survive. -/
def LayoutSettings.stringifies (s : LayoutSettings) : Bool :=
  s.stringify || !s.generation.keepsTypes

namespace Layout

def present (stringify : Bool) (v : Value) : Value := if stringify then v.stringify else v

def columnPairs (s : LayoutSettings) (row : Row) : List (String × Value) :=
  row.pairs.map fun p => (p.1, present s.stringifies p.2)

/-- Values by name; the last column of a name wins. -/
def assoc (pairs : List (String × Value)) : OrderedMap RowKey Value :=
  .ofList (pairs.map fun p => (.ofName p.1, p.2))

/-- Write the columns from position `i` on, each under its name and, unless that key is taken, under
its position. -/
def bothFrom (i : Nat) (m : OrderedMap RowKey Value) :
    List (String × Value) → OrderedMap RowKey Value
  | [] => m
  | (name, v) :: rest =>
    bothFrom (i + 1) ((m.insert (.ofName name) v).insertIfNew (.int i) v) rest

/-- The next integer key, at most the largest one of 64 bits. -/
def nextKey (n : Int) : Int := min (n + 1) Decimal.maxInt64

/-- An integer key moves the next free key beyond itself. -/
def freeAfter (free : Int) : RowKey → Int
  | .int n => max free (nextKey n)
  | .name _ => free

/-- Write the columns, each under its name and under the next free integer. -/
def appendFrom (free : Int) (m : OrderedMap RowKey Value) :
    List (String × Value) → OrderedMap RowKey Value
  | [] => m
  | (name, v) :: rest =>
    let key := RowKey.ofName name
    let free := freeAfter free key
    appendFrom (nextKey free) ((m.insert key v).insert (.int free) v) rest

def both (generation : Generation) (pairs : List (String × Value)) : OrderedMap RowKey Value :=
  if generation.appendsPositions then appendFrom 0 .empty pairs else bothFrom 0 .empty pairs

def addToGroup (m : OrderedMap String ColumnGroup) (p : String × Value) :
    OrderedMap String ColumnGroup :=
  match m.get? p.1 with
  | some group => m.insert p.1 (group.add p.2)
  | none => m.insert p.1 (.one p.2)

/-- The values of each name in column order. -/
def groups (pairs : List (String × Value)) : OrderedMap String ColumnGroup :=
  pairs.foldl addToGroup .empty

/-- Build an object of a class from the columns and the constructor. -/
def ofClass (c : ObjectClass) (args : List Value) (late : Bool) (pairs : List (String × Value)) :
    Callout (Except Error Object) :=
  if late then
    (c.runConstructor c.newObject args).map fun (o, result) => result.map fun _ => o.assign pairs
  else
    (c.runConstructor (c.newObject.assign pairs) args).map fun (o, result) => result.map fun _ => o

end Layout

open Layout in
/-- Lay out a row. Only the mode that fills an object changes the store. -/
def layOut (s : LayoutSettings) (row : Row) (mode : FetchMode) (objects : ObjectStore) :
    Callout (Except Error FetchedRow × ObjectStore) :=
  let pairs := columnPairs s row
  match mode with
  | .num => .done (.ok (.list (pairs.map Prod.snd)), objects)
  | .assoc => .done (.ok (.map (assoc pairs)), objects)
  | .both => .done (.ok (.map (both s.generation pairs)), objects)
  | .named => .done (.ok (.groups (groups pairs)), objects)
  | .object => .done (.ok (.object (Object.standard.assign pairs)), objects)
  | .ofClass className args late =>
    match s.classes.find? className with
    | none => .done (.error (.unknownClass className), objects)
    | some c => (ofClass c args late pairs).map fun result => (result.map .object, objects)
  | .into target =>
    .done (.ok (.into target), objects.set target ((objects.get target).assign pairs))

end SqlBridge
