import SqlBridge.Proofs.Connection.Twins
import SqlBridge.Proofs.Session.Fetch

/-! # Work in twin sessions

Twin sessions have the same engine and twins under the same numbers and names. So a
constructor that is at work in both gets answers that tell the same. That stays so if
in either of them it writes attributes that it does not write in the other: such
works end in the same way.
-/

namespace SqlBridge.Session
variable {σ α : Type} {eng : Engine σ} {s s' : Session σ} {sameModes : Bool}

/-- The sessions have the same engine and twins under the same numbers and names. -/
structure Twins (sameModes : Bool) (s s' : Session σ) : Prop where
  engine : s'.engine = s.engine
  named (name : String) :
    (s'.connections.get? name).map NamedConnection.id = (s.connections.get? name).map NamedConnection.id
  live (id : ConnectionId) : s.live.get? id = none ∧ s'.live.get? id = none ∨
    ∃ c c', s.live.get? id = some c ∧ s'.live.get? id = some c' ∧ Connection.Twins sameModes c c'

namespace Twins

theorem refl (s : Session σ) : Twins sameModes s s where
  engine := rfl
  named _ := rfl
  live id := by
    cases there : s.live.get? id with
    | none => exact .inl ⟨rfl, rfl⟩
    | some c => exact .inr ⟨c, c, rfl, rfl, rfl, rfl, rfl, fun _ => rfl, fun _ => rfl⟩

theorem symm (twins : Twins sameModes s s') : Twins sameModes s' s where
  engine := twins.engine.symm
  named name := (twins.named name).symm
  live id := by
    obtain ⟨missing, missing'⟩ | ⟨c, c', there, there', both⟩ := twins.live id
    · exact .inl ⟨missing', missing⟩
    · exact .inr ⟨c', c, there', there, both.symm⟩

theorem weaken (twins : Twins sameModes s s') {fewer : Bool}
    (implied : fewer = true → sameModes = true) : Twins fewer s s' where
  engine := twins.engine
  named := twins.named
  live id' := (twins.live id').imp id fun ⟨c, c', there, there', both⟩ =>
    ⟨c, c', there, there', both.weaken implied⟩

theorem cases_atWork (twins : Twins sameModes s s') (name : String) :
    s.atWork? name = none ∧ s'.atWork? name = none ∨
    ∃ id c c', s.atWork? name = some (id, c) ∧ s'.atWork? name = some (id, c') ∧
      Connection.Twins sameModes c c' := by
  have same := twins.named name
  cases here : s.connections.get? name with
  | none =>
    have here' : s'.connections.get? name = none := by simpa [here] using same
    exact .inl ⟨by simp [atWork?, here], by simp [atWork?, here']⟩
  | some named =>
    obtain ⟨named', here', sameId⟩ : ∃ named', s'.connections.get? name = some named' ∧
      named'.id = named.id := by simpa [here] using same
    obtain ⟨missing, missing'⟩ | ⟨c, c', there, there', both⟩ := twins.live named.id
    · exact .inl ⟨by simp [atWork?, here, missing], by simp [atWork?, here', sameId, missing']⟩
    · exact .inr ⟨named.id, c, c', by simp [atWork?, here, there],
        by simp [atWork?, here', sameId, there'], both⟩

theorem written (twins : Twins sameModes s s') (eng : Engine σ) (connection : String)
    (attr : Attribute) (v : AttributeValue) :
    Twins (sameModes && attr ≠ .errorMode) (respond eng connection (.setAttribute attr v) s).2 s' := by
  have fewer : (sameModes && decide (attr ≠ .errorMode)) = true → sameModes = true :=
    fun same => (Bool.and_eq_true_iff.mp same).1
  change Twins _ (onConnection connection _ s).2 s'
  obtain ⟨idle, -⟩ | ⟨here, c, c', there, there', both⟩ := twins.cases_atWork connection
  · rw [onConnection_idle idle]
    exact twins.weaken fewer
  · obtain ⟨-, -, -, live⟩ := atWork?_eq_some.mp there
    obtain ⟨-, -, -, live'⟩ := atWork?_eq_some.mp there'
    simp only [onConnection_atWork there, onShared_found live]
    refine ⟨twins.engine, twins.named, fun id => ?_⟩
    simp only [OrderedMap.get?_insert]
    by_cases same : here = id
    · rw [if_pos same, ← same]
      exact .inr ⟨_, c', rfl, live', both.written attr v⟩
    · rw [if_neg same]
      exact (twins.weaken fewer).live id

theorem respond (twins : Twins sameModes s s') (eng : Engine σ) (connection : String)
    (request : Request) :
    let after := Session.respond eng connection request s
    let after' := Session.respond eng connection request s'
    SameOutcome sameModes request.failed after.1 after'.1 ∧ Twins sameModes after.2 after'.2 := by
  let act : StateM (Running σ) Answer := Connection.respond eng request
  have unfolded (s : Session σ) : Session.respond eng connection request s =
    ((onConnection connection act s).1.getD (.ok .null), (onConnection connection act s).2) := rfl
  simp only [unfolded]
  obtain ⟨idle, idle'⟩ | ⟨here, c, c', there, there', both⟩ := twins.cases_atWork connection
  · rw [onConnection_idle idle, onConnection_idle idle']
    exact ⟨.inl rfl, twins⟩
  · obtain ⟨-, -, -, live⟩ := atWork?_eq_some.mp there
    obtain ⟨-, -, -, live'⟩ := atWork?_eq_some.mp there'
    obtain ⟨same, engine, both'⟩ := both.respond eng request s.engine s.warnings s'.warnings
    simp only [onConnection_atWork there, onConnection_atWork there', onShared_found live,
      onShared_found live', twins.engine]
    refine ⟨same, engine, twins.named, fun id => ?_⟩
    simp only [OrderedMap.get?_insert]
    by_cases sameId : here = id
    · rw [if_pos sameId, if_pos sameId]
      exact .inr ⟨_, _, rfl, rfl, both'⟩
    · rw [if_neg sameId, if_neg sameId]
      exact twins.live id

/-- A write of an attribute is accepted in both sessions or in neither, whatever the modes are. -/
theorem respond_write (twins : Twins sameModes s s') (eng : Engine σ) (connection : String)
    (attr : Attribute) (v : AttributeValue) :
    (Session.respond eng connection (.setAttribute attr v) s').1 =
      (Session.respond eng connection (.setAttribute attr v) s).1 := by
  -- The modes decide how a failure is shown, and a write cannot fail.
  have answered (s : Session σ) :
      ∃ b, (Session.respond eng connection (.setAttribute attr v) s).1 = .ok b := by
    change ∃ b, (onConnection connection (Connection.respond eng (.setAttribute attr v)) s).1.getD _ = _
    cases there : s.atWork? connection with
    | none =>
      rw [onConnection_idle there]
      exact ⟨_, rfl⟩
    | some at_ =>
      rw [onConnection_reply there]
      exact ⟨_, rfl⟩
  obtain ⟨b, answer⟩ := answered s
  obtain ⟨b', answer'⟩ := answered s'
  have same := (twins.respond eng connection (.setAttribute attr v)).1
  rw [answer, answer'] at same ⊢
  rcases same with same | ⟨-, e, -, ⟨error, -⟩ | ⟨-, error⟩⟩
  · exact same
  · cases error
  · cases error

end Twins

/-- From this session on, the second work makes the requests of the first, but each of them may make
writes of attributes that the other does not make, and they end in the same way. Where a request of
both is answered, the second work may get any answer that tells the same. -/
inductive AlikeButWrites (eng : Engine σ) :
    (sameModes : Bool) → Session σ → Callout α → Callout α → Prop where
  | done {sameModes : Bool} {s : Session σ} (a : α) : AlikeButWrites eng sameModes s (.done a) (.done a)
  | ask {sameModes : Bool} {s : Session σ} {connection : String} {request : Request}
      {next next' : Answer → Callout α}
      (rest : let after := respond eng connection request s
        ∀ answer', SameOutcome sameModes request.failed after.1 answer' →
          AlikeButWrites eng sameModes after.2 (next after.1) (next' answer')) :
      AlikeButWrites eng sameModes s (.ask connection request next) (.ask connection request next')
  | left {sameModes : Bool} {s : Session σ} {connection : String} {attr : Attribute}
      {v : AttributeValue} {next : Answer → Callout α} {work' : Callout α}
      (rest : let after := respond eng connection (.setAttribute attr v) s
        AlikeButWrites eng (sameModes && attr ≠ .errorMode) after.2 (next after.1) work') :
      AlikeButWrites eng sameModes s (.ask connection (.setAttribute attr v) next) work'
  | right {sameModes : Bool} {s : Session σ} {connection : String} {attr : Attribute}
      {v : AttributeValue} {work : Callout α} {next' : Answer → Callout α}
      (rest : AlikeButWrites eng (sameModes && attr ≠ .errorMode) s work
        (next' (respond eng connection (.setAttribute attr v) s).1)) :
      AlikeButWrites eng sameModes s work (.ask connection (.setAttribute attr v) next')

theorem AlikeButWrites.refl (eng : Engine σ) (s : Session σ) (work : Callout α) :
    AlikeButWrites eng true s work work := by
  induction work generalizing s with
  | done a => exact .done a
  | ask connection request next ih =>
    refine .ask fun answer' same => ?_
    rw [same.eq]
    exact ih _ _

/-- Works that differ in their writes of attributes end in the same way, in twin sessions too. -/
theorem Twins.run {work work' : Callout α} (twins : Twins sameModes s s')
    (alike : AlikeButWrites eng sameModes s work work') :
    let after := work.run (Session.respond eng) s
    let after' := work'.run (Session.respond eng) s'
    after'.1 = after.1 ∧ Twins false after.2 after'.2 := by
  induction alike generalizing s' with
  | done a => exact ⟨rfl, twins.weaken (by simp)⟩
  | @ask _ s connection request next next' rest ih =>
    obtain ⟨same, twins'⟩ := twins.respond eng connection request
    exact ih _ same twins'
  | @left _ s connection attr v next work' rest ih =>
    exact ih (twins.written eng connection attr v)
  | @right _ s connection attr v work next' rest ih =>
    have answer := twins.respond_write eng connection attr v
    have twins' := (twins.symm.written eng connection attr v).symm
    obtain ⟨same, twins'⟩ := ih twins'
    rw [← answer] at same twins'
    exact ⟨same, twins'⟩

end SqlBridge.Session
