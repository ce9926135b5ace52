import SqlBridge.Proofs.Connection.LastError

/-! # What a connection keeps

A connection keeps the handle, the generation and the classes that it was opened
with. No operation, no attribute and no request changes them.
-/

namespace SqlBridge.Connection
variable {σ : Type} (eng : Engine σ)

/-- What a connection is opened with. -/
structure Origin where
  handle : Handle
  generation : Generation
  classes : ClassTable

def origin (c : Connection) : Origin := ⟨c.handle, c.state.generation, c.state.classes⟩

def KeepsOrigin {α : Type} (act : StateM (Running σ) α) : Prop :=
  ∀ r, (act r).2.connection.origin = r.connection.origin

theorem perform_keepsOrigin (op : Operation) : KeepsOrigin (op.perform eng) := by
  intro r
  rw [perform_eq]
  rfl

theorem setAttribute_keepsOrigin (attr : Attribute) (v : AttributeValue) :
    KeepsOrigin (setAttribute attr v : StateM (Running σ) Bool) := by
  intro r
  obtain ⟨errorMode, defaultMode, stringify, same⟩ := r.connection.state.set_settings attr v
  change origin { r.connection with state := (r.connection.state.set attr v).2.1 } = _
  rw [same]
  rfl

theorem getAttribute_keepsOrigin (attr : Attribute) : KeepsOrigin (getAttribute eng attr) := by
  intro r
  cases attr <;> rfl

theorem execute_keepsOrigin (st : Statement) (params : List Value) :
    KeepsOrigin (execute eng st params) := by
  intro r
  rw [execute_eq]

theorem close_keepsOrigin : KeepsOrigin (close eng) := by
  intro r
  obtain ⟨transaction, closed⟩ := close_connection eng r
  rw [closed]
  rfl

theorem respond_keepsOrigin (request : Request) : KeepsOrigin (respond eng request) := by
  intro r
  cases request with
  | setAttribute attr v => exact setAttribute_keepsOrigin attr v r
  | exec sql => exact perform_keepsOrigin eng (.exec sql) r
  | inTransaction => rfl
  | begin => exact perform_keepsOrigin eng .begin r
  | commit => exact perform_keepsOrigin eng .commit r
  | rollBack => exact perform_keepsOrigin eng .rollBack r
  | errorCode => rfl

end SqlBridge.Connection
