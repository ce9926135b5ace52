import SqlBridge.Decimal.Integer

/-! # Keys of row maps

A row that is fetched as a map is keyed by column names and positions. A name
that is the canonical decimal form of a 64-bit integer is that integer; any
other name is text. So a name and a position that look alike are one key.
-/

namespace SqlBridge

inductive RowKey where
  | int (n : Int)
  | name (s : String)
deriving DecidableEq

namespace RowKey

/-- The key of a column name. -/
def ofName (s : String) : RowKey :=
  match Decimal.readCanonicalInt s.toList with
  | some n => .int n
  | none => .name s

def text : RowKey → String
  | int n => Decimal.intText n
  | name s => s

end RowKey
end SqlBridge
