import SqlBridge.Json.Scan
import SqlBridge.Value

/-! # Values under their type's name

A value can be exchanged as JSON that names its type: null is the bare word
`"Null"`, any other value an object whose one member is named for the type. The
reader takes no other text, white space between the tokens apart.
-/

namespace SqlBridge.Value
open Json.Scan

def toTagged : Value → Json
  | null => .str "Null"
  | bool b => .object [("Bool", .bool b)]
  | int i => .object [("Int", .int i.toInt)]
  | float x => .object [("Float", if x.isFinite then .float x else .null)]
  | text s => .object [("Text", .str s)]

def intOfNumber : Number → Option Value
  | .int i => (Decimal.inInt64 i).map fun i => .int (Int64.ofInt i)
  | .float _ => none

def floatOfNumber : Number → Value
  | .int i => .float (.ofInt i)
  | .float x => .float x

/-- Read a member's value under the name of its type. -/
def scanMember (name : String) (cs : List Char) : Option (Value × List Char) :=
  if name = "Null" then (expect "null".toList cs).map (.null, ·)
  else if name = "Bool" then
    ((expect "true".toList cs).map (.bool true, ·)).or
      ((expect "false".toList cs).map (.bool false, ·))
  else if name = "Int" then do
    let (n, rest) ← number cs
    return (← intOfNumber n, rest)
  else if name = "Float" then do
    let (n, rest) ← number cs
    return (floatOfNumber n, rest)
  else if name = "Text" then do
    let (s, rest) ← string (← expect ['"'] cs)
    return (.text (String.ofList s), rest)
  else none

def scanTagged : List Char → Option (Value × List Char)
  | '"' :: cs => do
    let (name, rest) ← string cs
    if String.ofList name = "Null" then some (.null, rest) else none
  | '\x7b' :: cs => do
    let (name, rest) ← string (← expect ['"'] (skipSpace cs))
    let rest ← expect [':'] (skipSpace rest)
    let (v, rest) ← scanMember (String.ofList name) (skipSpace rest)
    let rest ← expect ['\x7d'] (skipSpace rest)
    return (v, rest)
  | _ => none

/-- The value that a text spells in the tagged form. -/
def ofTagged? (s : String) : Option Value := do
  let (v, rest) ← scanTagged (skipSpace s.toList)
  if (skipSpace rest).isEmpty then some v else none

end SqlBridge.Value
