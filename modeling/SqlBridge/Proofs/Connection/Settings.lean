import SqlBridge.Proofs.Connection.LastError

/-! # The settings of a connection over requests

The settings of a connection are all of its state but the last error and the
transaction. They change by writes of attributes and by nothing else that is asked
during a fetch, so a fold over the writes gives the settings that are left behind.
-/

namespace SqlBridge

def Request.writes : Request → List (Attribute × AttributeValue)
  | .setAttribute attr v => [(attr, v)]
  | .exec _ | .inTransaction | .begin | .commit | .rollBack | .errorCode => []

namespace Connection

namespace State
variable {state state' state'' : State}

/-- The states differ at most in the last error and the transaction. -/
def SameSettings (state state' : State) : Prop :=
  ∃ lastError transaction, state' = { state with lastError, transaction }

namespace SameSettings

theorem refl (state : State) : SameSettings state state := ⟨_, _, rfl⟩

theorem trans (first : SameSettings state state') (second : SameSettings state' state'') :
    SameSettings state state'' := by
  obtain ⟨_, _, rfl⟩ := first
  obtain ⟨_, _, rfl⟩ := second
  exact ⟨_, _, rfl⟩

theorem layoutSettings (same : SameSettings state state') :
    state'.layoutSettings = state.layoutSettings := by
  obtain ⟨_, _, rfl⟩ := same
  rfl

theorem defaultMode (same : SameSettings state state') : state'.defaultMode = state.defaultMode := by
  obtain ⟨_, _, rfl⟩ := same
  rfl

end SameSettings

def setAll (state : State) (writes : List (Attribute × AttributeValue)) : State :=
  writes.foldl (fun state write => (state.set write.1 write.2).2.1) state

theorem setAll_append (state : State) (writes writes' : List (Attribute × AttributeValue)) :
    state.setAll (writes ++ writes') = (state.setAll writes).setAll writes' :=
  List.foldl_append

/-- The last error and the transaction play no part in a write. -/
theorem SameSettings.set (same : SameSettings state state') (attr : Attribute) (v : AttributeValue) :
    SameSettings (state.set attr v).2.1 (state'.set attr v).2.1 := by
  obtain ⟨lastError, transaction, rfl⟩ := same
  have written : set? { state with lastError, transaction } attr v =
      (state.set? attr v).map fun after => { after with lastError, transaction } := by
    rw [set?.eq_def, set?.eq_def]
    split
    next => rfl
    next => rw [Option.map_map]; rfl
    next mode =>
      change ite (state.acceptsDefault mode = true) _ _ = _
      split <;> rfl
    next => rw [Option.map_map]; rfl
    next => rfl
    next => rfl
    next => rfl
  rw [State.set, State.set, written]
  cases state.set? attr v with
  | none => exact ⟨_, _, rfl⟩
  | some after => exact ⟨_, _, rfl⟩

theorem SameSettings.setAll (same : SameSettings state state')
    (writes : List (Attribute × AttributeValue)) :
    SameSettings (state.setAll writes) (state'.setAll writes) := by
  induction writes generalizing state state' with
  | nil => exact same
  | cons write rest ih => exact ih (same.set write.1 write.2)

end State

theorem respond_settings {σ : Type} (eng : Engine σ) (request : Request) (r : Running σ) :
    (r.connection.state.setAll request.writes).SameSettings
      (respond eng request r).2.connection.state := by
  have verb (op : Operation) : r.connection.state.SameSettings
      (op.perform eng r).2.connection.state := by
    rw [perform_eq]
    exact ⟨_, _, rfl⟩
  cases request with
  | setAttribute attr v => exact .refl _
  | exec sql => exact verb (.exec sql)
  | inTransaction => exact .refl _
  | begin => exact verb .begin
  | commit => exact verb .commit
  | rollBack => exact verb .rollBack
  | errorCode => exact .refl _

end Connection
end SqlBridge
