import SqlBridge.Error
import SqlBridge.Row

/-! # Typed access to rows

The values of a row can be asked for in a type. A value that has no form in
that type is refused with both types named; null is accepted only where a value
may be missing.
-/

namespace SqlBridge

/-- Types that values convert to, and the conversion that may refuse. -/
class OfValue (α : Type) where
  ofValue : Value → Except Error α

namespace OfValue

/-- The refusal of a value that has no form in the wanted type. -/
def mismatch (expected : String) (v : Value) : Error :=
  .type none ("expected " ++ expected ++ ", found " ++ v.typeName)

/-- Turn an optional conversion into one that names the wanted type. -/
def required {α : Type} (expected : String) (v : Value) : Option α → Except Error α
  | some a => .ok a
  | none => .error (mismatch expected v)

instance : OfValue Bool := ⟨fun v => required "bool" v v.toBool?⟩

instance : OfValue Int64 := ⟨fun v => required "int" v v.toInt?⟩

instance : OfValue Binary64 := ⟨fun v => required "float" v v.toFloat?⟩

instance : OfValue String := ⟨fun v => required "string" v v.toText?⟩

instance : OfValue Value := ⟨Except.ok⟩

/-- Null is no value; anything else has to convert. -/
instance {α : Type} [OfValue α] : OfValue (Option α) :=
  ⟨fun v => if v.isNull then .ok none else (ofValue v).map some⟩

end OfValue

namespace Row
variable (α : Type) [OfValue α]

def convertAt (r : Row) (i : Nat) : Except Error α :=
  match r.get? i with
  | some v => OfValue.ofValue v
  | none => .error (.type none
      ("column index " ++ Decimal.natText i ++ " out of bounds (row has " ++
        Decimal.natText r.size ++ " columns)"))

def convertNamed (r : Row) (name : String) : Except Error α :=
  match r.byName? name with
  | some v => OfValue.ofValue v
  | none => .error (.type none ("column '" ++ name ++ "' not found"))

end Row
end SqlBridge
