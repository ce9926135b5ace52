import SqlBridge.Class.Table

/-! # Constructors as scripts

A script is a list of actions on the object under construction. Each action
sets a property or fails, and the first failure ends the script.
-/

namespace SqlBridge.Constructor

/-- Where the value of a property comes from. -/
inductive Source where
  | argument (i : Nat)
  | property (name : String)
  | argumentCount
  | propertyCount
  | constant (v : Value)
  | request (connection : String) (r : Request)

inductive Action where
  | fail (e : Error)
  | set (name : String) (source : Source)

def Source.read {α : Type} (o : Object) (args : List Value) (next : Answer → Callout α) :
    Source → Callout α
  | argument i => next (.ok ((args[i]?).getD .null))
  | property name => next (.ok ((o.get? name).getD .null))
  | argumentCount => next (.ok (.int (Int64.ofNat args.length)))
  | propertyCount => next (.ok (.int (Int64.ofNat o.size)))
  | constant v => next (.ok v)
  | request c r => .ask c r next

def ofActions : List Action → Constructor
  | [], o, _ => .done (o, .ok ())
  | .fail e :: _, o, _ => .done (o, .error e)
  | .set name source :: rest, o, args =>
    source.read o args fun
      | .ok v => ofActions rest (o.set name v) args
      | .error e => .done (o, .error e)

end SqlBridge.Constructor
