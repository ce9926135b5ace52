import SqlBridge.Connection.Attribute
import SqlBridge.Error

/-! # Work that calls back into connections

A class constructor may use connections while a row is being fetched. Such work
is a tree: it is done, or it makes one request to a connection and goes on with
the answer. Whoever runs the tree supplies the answers, so the work itself
needs no access to connections.
-/

namespace SqlBridge

/-- What may be asked of a connection during a fetch. -/
inductive Request where
  | setAttribute (attr : Attribute) (value : AttributeValue)
  | exec (sql : String)
  | inTransaction
  | begin
  | commit
  | rollBack
  | errorCode

/-- A request is answered by a value or by the error that the connection raised. -/
abbrev Answer := Except Error Value

inductive Callout (α : Type) where
  | done (a : α)
  | ask (connection : String) (request : Request) (next : Answer → Callout α)

namespace Callout
variable {α β τ : Type}

def map (f : α → β) : Callout α → Callout β
  | done a => done (f a)
  | ask c r next => ask c r fun answer => (next answer).map f

/-- Do the work, with requests answered in the state `τ`. -/
def run (respond : String → Request → StateM τ Answer) : Callout α → StateM τ α
  | done a => pure a
  | ask c r next => do
    let answer ← respond c r
    run respond (next answer)

/-- Do the work where no connection exists: every request is answered by null. -/
def runAlone : Callout α → α
  | done a => a
  | ask _ _ next => runAlone (next (.ok .null))

end Callout
end SqlBridge
