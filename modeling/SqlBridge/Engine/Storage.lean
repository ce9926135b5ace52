import SqlBridge.Engine
import SqlBridge.Error

/-! # Opening storage

The settings with which the engine opens a database, the flags that they stand
for, and the text functions that are registered on the opened handle.
-/

namespace SqlBridge

structure AccessFlags where
  readOnly : Bool
  readWrite : Bool
  create : Bool
  uri : Bool
deriving DecidableEq

namespace AccessFlags

def forReading : AccessFlags := ⟨true, false, false, false⟩

def forWriting : AccessFlags := ⟨false, true, false, false⟩

def forCreating : AccessFlags := ⟨false, true, true, false⟩

/-- The engine's flag word. Handles are never shared between threads; without a mode the database
is opened for writing and created. -/
def word (f : AccessFlags) : Nat :=
  let given := 0x8000 ||| (if f.readOnly then 1 else 0) ||| (if f.readWrite then 2 else 0) |||
    (if f.create then 4 else 0) ||| (if f.uri then 0x40 else 0)
  if f.readOnly || f.readWrite then given else given ||| 2 ||| 4

end AccessFlags

structure Storage where
  path : String
  flags : AccessFlags
  busyTimeout : Nat
deriving DecidableEq

namespace Storage

def memoryPath : String := ":memory:"

def file (path : String) : Storage := ⟨path, .forCreating, 5000⟩

def memory : Storage := file memoryPath

def flagWord (s : Storage) : Nat :=
  if s.path = memoryPath then s.flags.word ||| 0x80 else s.flags.word

end Storage

/-- The engine takes text that ends at its first NUL, so text that holds one is refused. -/
def hasNul (s : String) : Bool := s.toList.contains '\x00'

def nulError (sql : String) : Error :=
  .query ⟨.malformed, some sql, generalState, none, "SQL contains null byte"⟩

namespace Engine
variable {σ : Type} (eng : Engine σ)

def openStorage (s : Storage) : StateM σ (Except Error Handle) := do
  if hasNul s.path then
    return .error (.connect ⟨.opening, none, "Invalid path: contains null byte", none⟩)
  match ← eng.connect s.path s.flagWord with
  | .error f => return .error (.connect ⟨.opening, some f.code, f.message, none⟩)
  | .ok h =>
    if 0 < s.busyTimeout then eng.setBusyTimeout h (min s.busyTimeout 2147483647)
    return .ok h

/-- Register a function without arguments that answers with a text. -/
def registerText (h : Handle) (name value : String) : StateM σ (Except Error Unit) := do
  if hasNul name then return .error (nulError name)
  if hasNul value then return .error (nulError value)
  match ← eng.defineText h name value with
  | .ok () => return .ok ()
  | .error code =>
    let f ← eng.lastFailure h
    return .error (.connect ⟨.setup, some code, f.message, none⟩)

end Engine
end SqlBridge
