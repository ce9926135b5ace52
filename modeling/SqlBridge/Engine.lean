import SqlBridge.Text.Utf8
import SqlBridge.Value

/-! # The engine

The database engine is not part of this library. It is given by its calls, each
of which may change the engine's state. Values cross the border as cells, which
have the storage classes of the engine; bytes that are read as text need not be
valid UTF-8.
-/

namespace SqlBridge

/-- A value as the engine stores it. -/
inductive Cell where
  | null
  | integer (i : Int64)
  | real (x : Binary64)
  | text (bytes : List UInt8)
  | blob (bytes : List UInt8)

/-- The longest text that can be bound, and the longest statement that can be compiled. -/
def maxTextLength : Nat := 2147483647

namespace Cell

/-- The cell to bind for a value; a text that is too long has none. -/
def ofValue? : Value → Option Cell
  | .null => some null
  | .bool b => some (integer (if b then 1 else 0))
  | .int i => some (integer i)
  | .float x => some (real x)
  | .text s =>
    let bytes := Text.Utf8.encode s.toList
    if bytes.length ≤ maxTextLength then some (text bytes) else none

/-- The value read from a cell. Text and bytes alike are read as text. -/
def toValue : Cell → Value
  | null => .null
  | integer i => .int i
  | real x => .float x
  | text bytes | blob bytes => .text (String.ofList (Text.Utf8.decode bytes))

end Cell

structure Handle where
  id : Nat
deriving DecidableEq

structure Program where
  id : Nat
deriving DecidableEq

/-- A result code and the engine's message. -/
structure Failure where
  code : Int
  message : String

/-- What compiling found: a statement unless only blanks and comments were left, and the bytes up
to the end of the compiled part if the engine reports it. -/
structure Compilation where
  program : Option Program
  used : Option Nat

/-- What stepping a statement to its end gave: the rows, each by column index, and the result code
if stepping failed. -/
structure Stepping where
  rows : List (Nat → Cell)
  failure : Option Int

/-- The calls of an engine over its state. Every call but the opening of a handle and the question
for the version names the handle that it is about. -/
structure Engine (σ : Type) where
  connect : (path : String) → (flags : Nat) → StateM σ (Except Failure Handle)
  setBusyTimeout : Handle → Nat → StateM σ Unit
  defineText : Handle → (name value : String) → StateM σ (Except Int Unit)
  close : Handle → StateM σ Unit
  execute : Handle → String → StateM σ (Except Failure Unit)
  compile : Handle → (sql : String) → (offset : Nat) → StateM σ (Except Int Compilation)
  parameterCount : Handle → Program → StateM σ Nat
  bind : Handle → Program → (index : Nat) → Cell → StateM σ (Except Int Unit)
  columns : Handle → Program → StateM σ (List (String × Option String))
  step : Handle → Program → StateM σ Stepping
  finalize : Handle → Program → StateM σ Unit
  changes : Handle → StateM σ Int
  totalChanges : Handle → StateM σ Int
  lastRowId : Handle → StateM σ Int64
  autocommit : Handle → StateM σ Bool
  lastFailure : Handle → StateM σ Failure
  version : StateM σ String

end SqlBridge
