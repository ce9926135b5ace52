import SqlBridge.Proofs.Connection.ErrorMode
import SqlBridge.Proofs.Connection.LastError

/-! # Connections that differ in their attributes

Twins are connections that agree in all that a request made during a fetch depends on,
and may differ in every attribute. They do the same with each request. Their answers
tell the same, too, but where the error modes differ a failure of the engine may be
raised by one of them and hidden by the other.
-/

namespace SqlBridge

/-- The outcomes tell the same: they are equal or, unless the error modes are the same, one is an error
of the engine and the other what stands for a failure. -/
def SameOutcome {α : Type} (sameModes : Bool) (failed : α) (a a' : Except Error α) : Prop :=
  a' = a ∨ sameModes = false ∧ ∃ e : Error, e.isFromEngine = true ∧
    (a = .error e ∧ a' = .ok failed ∨ a = .ok failed ∧ a' = .error e)

namespace SameOutcome
variable {α β : Type} {sameModes : Bool} {failed : α} {a a' : Except Error α}

theorem map (same : SameOutcome sameModes failed a a') (f : α → β) :
    SameOutcome sameModes (f failed) (a.map f) (a'.map f) := by
  rcases same with rfl | ⟨modes, e, engine, ⟨rfl, rfl⟩ | ⟨rfl, rfl⟩⟩
  · exact .inl rfl
  · exact .inr ⟨modes, e, engine, .inl ⟨rfl, rfl⟩⟩
  · exact .inr ⟨modes, e, engine, .inr ⟨rfl, rfl⟩⟩

theorem eq (same : SameOutcome true failed a a') : a' = a := by
  rcases same with same | ⟨modes, -⟩
  · exact same
  · cases modes

end SameOutcome

/-- Two error modes show one outcome. -/
theorem ErrorMode.report_sameOutcome {α : Type} {mode mode' : ErrorMode} {sameModes : Bool}
    (same : sameModes = true → mode' = mode) (method : Method) (last : LastError)
    (outcome : Except Error α) :
    SameOutcome sameModes none (mode.report method last outcome).result
      (mode'.report method last outcome).result := by
  cases sameModes with
  | true =>
    rw [same rfl]
    exact .inl rfl
  | false =>
    cases outcome with
    | ok a => exact .inl rfl
    | error e =>
      simp only [report]
      cases engine : e.isFromEngine with
      | false => exact .inl rfl
      | true => cases mode <;> cases mode' <;> simp [SameOutcome, engine]

/-- What stands for a failure in the answer to a request. -/
def Request.failed : Request → Value
  | .exec _ => .null
  | .setAttribute _ _ | .inTransaction | .begin | .commit | .rollBack | .errorCode => .bool false

namespace Connection
variable {σ : Type} {c c' : Connection} {sameModes : Bool}

/-- Whether a value is accepted depends on nothing but the classes that are known. -/
theorem State.set_accepts {state state' : State}
    (known : ∀ name, state'.classes.contains name = state.classes.contains name)
    (attr : Attribute) (v : AttributeValue) : (state'.set attr v).1 = (state.set attr v).1 := by
  have accepts (mode : FetchMode) : state'.acceptsDefault mode = state.acceptsDefault mode := by
    cases mode with
    | ofClass className args late => exact known className
    | _ => rfl
  have written : (state'.set? attr v).isSome = (state.set? attr v).isSome := by
    rw [State.set?.eq_def, State.set?.eq_def]
    split <;> simp [accepts, apply_ite Option.isSome, -Option.map_bind]
  have accepted (state : State) : (state.set attr v).1 = (state.set? attr v).isSome := by
    rw [State.set]
    cases state.set? attr v <;> rfl
  rw [accepted, accepted, written]

theorem State.set_errorMode {state : State} {attr : Attribute} (other : attr ≠ .errorMode)
    (v : AttributeValue) : (state.set attr v).2.1.errorMode = state.errorMode := by
  rw [State.set]
  cases written : state.set? attr v with
  | none => rfl
  | some state' =>
    rw [State.set?.eq_def] at written
    split at written
    · exact absurd rfl other
    · exact absurd rfl other
    · split at written <;> cases written
      rfl
    · obtain ⟨mode, -, rfl⟩ := Option.map_eq_some_iff.mp written
      rfl
    · cases written
      rfl
    · cases written
      rfl
    · cases written

theorem State.set_errorMode_congr {state state' : State} (same : state'.errorMode = state.errorMode)
    (attr : Attribute) (v : AttributeValue) :
    (state'.set attr v).2.1.errorMode = (state.set attr v).2.1.errorMode := by
  by_cases other : attr = .errorMode
  · subst other
    cases v with
    | errorMode mode => rfl
    | int code =>
      simp only [State.set, State.set?]
      cases ErrorMode.ofCode? code with
      | none => exact same
      | some mode => rfl
    | bool | text | fetchMode => exact same
  · rw [set_errorMode other, set_errorMode other, same]

/-- The connections may differ in their attributes, unless in the error mode, and in the definitions of
the classes that they know. -/
structure Twins (sameModes : Bool) (c c' : Connection) : Prop where
  handle : c'.handle = c.handle
  lastError : c'.state.lastError = c.state.lastError
  transaction : c'.state.transaction = c.state.transaction
  classes (name : String) : c'.state.classes.contains name = c.state.classes.contains name
  errorMode : sameModes = true → c'.state.errorMode = c.state.errorMode

namespace Twins

theorem symm (twins : Twins sameModes c c') : Twins sameModes c' c where
  handle := twins.handle.symm
  lastError := twins.lastError.symm
  transaction := twins.transaction.symm
  classes name := (twins.classes name).symm
  errorMode same := (twins.errorMode same).symm

theorem weaken (twins : Twins sameModes c c') {fewer : Bool}
    (implied : fewer = true → sameModes = true) : Twins fewer c c' :=
  { twins with errorMode := fun same => twins.errorMode (implied same) }

theorem written (twins : Twins sameModes c c') (attr : Attribute) (v : AttributeValue) :
    Twins (sameModes && attr ≠ .errorMode) { c with state := (c.state.set attr v).2.1 } c' := by
  have errorMode : (sameModes && decide (attr ≠ .errorMode)) = true →
      c'.state.errorMode = (c.state.set attr v).2.1.errorMode := by
    intro same
    obtain ⟨same, other⟩ := Bool.and_eq_true_iff.mp same
    rw [State.set_errorMode (of_decide_eq_true other), twins.errorMode same]
  obtain ⟨mode, defaultMode, stringify, set⟩ := c.state.set_settings attr v
  rw [set] at errorMode ⊢
  exact { twins with errorMode }

theorem bothWritten (twins : Twins sameModes c c') (attr : Attribute) (v : AttributeValue) :
    Twins sameModes { c with state := (c.state.set attr v).2.1 }
      { c' with state := (c'.state.set attr v).2.1 } := by
  have errorMode (same : sameModes = true) :=
    State.set_errorMode_congr (twins.errorMode same) attr v
  obtain ⟨mode, defaultMode, stringify, set⟩ := c.state.set_settings attr v
  obtain ⟨mode', defaultMode', stringify', set'⟩ := c'.state.set_settings attr v
  rw [set, set'] at errorMode ⊢
  exact { twins with errorMode }

/-- Twins perform an operation in the same way if they attempt the same. -/
theorem perform (twins : Twins sameModes c c') {eng : Engine σ} {op : Operation}
    (attempt : op.attempt eng c' = op.attempt eng c) (engine : σ) (warnings warnings' : List Warning) :
    let after := op.perform eng ⟨engine, c, warnings⟩
    let after' := op.perform eng ⟨engine, c', warnings'⟩
    SameOutcome sameModes op.failed after.1 after'.1 ∧ after'.2.engine = after.2.engine ∧
      Twins sameModes after.2.connection after'.2.connection := by
  intro after after'
  simp only [after, after', perform_eq, attempt]
  generalize op.attempt eng c engine = attempted
  refine ⟨?_, rfl, ?_⟩
  · rw [Running.reported, Running.reported, twins.lastError]
    exact (ErrorMode.report_sameOutcome twins.errorMode _ _ _).map op.reply
  · refine { twins with transaction := rfl, lastError := ?_ }
    change (c'.state.errorMode.report _ c'.state.lastError _).last = _
    rw [twins.lastError]
    exact ErrorMode.last_report _ _ _ _ _

theorem respond (twins : Twins sameModes c c') (eng : Engine σ) (request : Request) (engine : σ)
    (warnings warnings' : List Warning) :
    let after := Connection.respond eng request ⟨engine, c, warnings⟩
    let after' := Connection.respond eng request ⟨engine, c', warnings'⟩
    SameOutcome sameModes request.failed after.1 after'.1 ∧ after'.2.engine = after.2.engine ∧
      Twins sameModes after.2.connection after'.2.connection := by
  have verb (op : Operation)
      (attempt : op.attempt eng c' = op.attempt eng c) (answer : op.Reply → Value) :
      let after := op.perform eng ⟨engine, c, warnings⟩
      let after' := op.perform eng ⟨engine, c', warnings'⟩
      SameOutcome sameModes (answer op.failed) (after.1.map answer) (after'.1.map answer) ∧
        after'.2.engine = after.2.engine ∧
        Twins sameModes after.2.connection after'.2.connection := by
    obtain ⟨same, rest⟩ := twins.perform attempt engine warnings warnings'
    exact ⟨same.map answer, rest⟩
  cases request with
  | setAttribute attr v =>
    refine ⟨.inl ?_, rfl, twins.bothWritten attr v⟩
    exact congrArg (fun b => Except.ok (Value.bool b)) (State.set_accepts twins.classes attr v)
  | exec sql =>
    refine verb (.exec sql) ?_ fun n => n.elim .null fun n => .int (Int64.ofNat n)
    simp only [Operation.attempt, twins.handle, twins.transaction]
  | inTransaction =>
    refine ⟨.inl ?_, rfl, twins⟩
    exact congrArg (fun t : Transaction => Except.ok (Value.bool t.isActive)) twins.transaction
  | begin =>
    refine verb .begin ?_ .bool
    simp only [Operation.attempt, twins.handle, twins.transaction]
  | commit =>
    refine verb .commit ?_ .bool
    simp only [Operation.attempt, twins.handle, twins.transaction]
  | rollBack =>
    refine verb .rollBack ?_ .bool
    simp only [Operation.attempt, twins.handle, twins.transaction]
  | errorCode =>
    refine ⟨.inl ?_, rfl, twins⟩
    exact congrArg (fun last : LastError => Except.ok (Value.text last.sqlstate)) twins.lastError

end Twins

end Connection
end SqlBridge
