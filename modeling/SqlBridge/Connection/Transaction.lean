import SqlBridge.Error

/-! # Tracking the transaction

A connection tracks whether it has a transaction open and refuses verbs that
are out of sequence before they reach the engine. A failed begin changes
nothing. After a failed commit or rollback the engine is asked whether its
transaction is still open, since it may have ended by other means.
-/

namespace SqlBridge

/-- The verbs of an engine that the tracker uses, over the engine's state. -/
structure TransactionVerbs (σ : Type) where
  begin : StateM σ (Except Error Unit)
  commit : StateM σ (Except Error Unit)
  rollBack : StateM σ (Except Error Unit)
  inTransaction : StateM σ Bool

inductive Transaction where
  | idle
  | active
deriving DecidableEq

namespace Transaction
variable {σ : Type}

def isActive (t : Transaction) : Bool := t = .active

def alreadyActive : Error := .sequence "There is already an active transaction"

def noneActive : Error := .sequence "There is no active transaction"

def begin (verbs : TransactionVerbs σ) :
    Transaction → StateM σ (Except Error Unit × Transaction)
  | active => return (.error alreadyActive, active)
  | idle => do
    match ← verbs.begin with
    | .ok () => return (.ok (), active)
    | .error e => return (.error e, idle)

/-- The state after a commit or rollback that reached the engine. -/
def afterEnding (verbs : TransactionVerbs σ) :
    Except Error Unit → StateM σ (Except Error Unit × Transaction)
  | .ok () => return (.ok (), idle)
  | .error e => do
    if ← verbs.inTransaction then return (.error e, active) else return (.error e, idle)

def commit (verbs : TransactionVerbs σ) :
    Transaction → StateM σ (Except Error Unit × Transaction)
  | idle => return (.error noneActive, idle)
  | active => do afterEnding verbs (← verbs.commit)

def rollBack (verbs : TransactionVerbs σ) :
    Transaction → StateM σ (Except Error Unit × Transaction)
  | idle => return (.error noneActive, idle)
  | active => do afterEnding verbs (← verbs.rollBack)

end Transaction
end SqlBridge
