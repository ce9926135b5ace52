import SqlBridge.Class.Table
import SqlBridge.Error

/-! # Calls with a fetch style

A caller may give a fetch mode as a style with further arguments. They are
checked before the engine is asked. Arguments are counted as the caller wrote
them, so their numbers depend on where the style stands in the call. Without a
style nothing is checked.
-/

namespace SqlBridge

/-- A further argument of a call: a scalar, an array or an object. -/
inductive Argument where
  | scalar (v : Value)
  | array (vs : List Value)
  | object (id : ObjectId)

/-- The type in argument errors; an object's type is its class. -/
def Argument.typeName (objects : ObjectStore) : Argument → String
  | scalar v => v.typeName
  | array _ => "array"
  | object id => (objects.get id).className

/-- A call and the position of the style among its arguments, counted from one. -/
structure StyledCall where
  method : Method
  stylePosition : Nat

namespace StyledCall

def query : StyledCall := ⟨.query, 2⟩

def setFetchMode : StyledCall := ⟨.setFetchMode, 1⟩

/-- The wrong number of arguments, of which `more` follow the style. -/
def countError (call : StyledCall) (bound : CountBound) (expected more : Nat) : Error :=
  .count ⟨call.method, bound, expected, call.stylePosition + more⟩

def argumentError (call : StyledCall) (position : Nat) (fault : String) : Error :=
  .type (some position)
    (call.method.label ++ ": Argument #" ++ Decimal.natText position ++ " " ++ fault)

variable (call : StyledCall) (classes : ClassTable) (objects : ObjectStore)

def plainMode (mode : FetchMode) (args : List Argument) : Except Error FetchMode :=
  if args.isEmpty then .ok mode
  else .error (call.countError .exactly call.stylePosition args.length)

/-- The class that an argument names. -/
def classArgument : Argument → Except Error ObjectClass
  | .scalar (.text name) =>
    match classes.find? name with
    | some c => .ok c
    | none => .error (call.argumentError (call.stylePosition + 1) "must be a valid class")
  | other =>
    .error (call.argumentError (call.stylePosition + 1)
      ("must be of type string, " ++ other.typeName objects ++ " given"))

/-- The constructor arguments, which may be left out or null. -/
def constructorArguments : Option Argument → Except Error (List Value)
  | none | some (.scalar .null) => .ok []
  | some (.array vs) => .ok vs
  | some other =>
    .error (call.argumentError (call.stylePosition + 2)
      ("must be of type ?array, " ++ other.typeName objects ++ " given"))

/-- A class mode: the name of a class and, if that has a constructor, its arguments. -/
def classMode (late : Bool) : List Argument → Except Error FetchMode
  | [] => .error (call.countError .atLeast (call.stylePosition + 1) 0)
  | nameArg :: more =>
    if 1 < more.length then
      .error (call.countError .atMost (call.stylePosition + 2) (more.length + 1))
    else do
      let c ← call.classArgument classes objects nameArg
      let args ← call.constructorArguments objects more.head?
      if !args.isEmpty && !c.hasConstructor then
        .error (call.argumentError (call.stylePosition + 2)
          ("must be empty when class provided in argument #" ++
            Decimal.natText (call.stylePosition + 1) ++ " has no constructor"))
      else .ok (.ofClass c.name args late)

def intoMode : List Argument → Except Error FetchMode
  | [.object id] => .ok (.into id)
  | [other] =>
    .error (call.argumentError (call.stylePosition + 1)
      ("must be of type object, " ++ other.typeName objects ++ " given"))
  | args => .error (call.countError .exactly (call.stylePosition + 1) args.length)

def modeOf (style : FetchStyle) (args : List Argument) : Except Error FetchMode :=
  match style with
  | .ofClass => call.classMode classes objects false args
  | .ofClassLate => call.classMode classes objects true args
  | .into => call.intoMode objects args
  | .both => call.plainMode .both args
  | .num => call.plainMode .num args
  | .assoc => call.plainMode .assoc args
  | .named => call.plainMode .named args
  | .object => call.plainMode .object args

/-- The mode that a call chooses. Without a style it chooses none and no argument is looked at. -/
def chooseMode (style : Option FetchStyle) (args : List Argument) :
    Except Error (Option FetchMode) :=
  match style with
  | none => .ok none
  | some style => (call.modeOf classes objects style args).map some

end StyledCall
end SqlBridge
