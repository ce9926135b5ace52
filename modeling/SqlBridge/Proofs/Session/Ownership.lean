import Mathlib.Logic.Function.Basic
import SqlBridge.Proofs.Session.Fetch

/-! # Who owns a shared connection

A shared connection is owned by the names of connections and the statements that
refer to it. A session is settled if its live connections are exactly those that
have an owner. While one owner changes what it refers to, the connection that it
gives up may be left without any, until that is released.
-/

namespace SqlBridge.Session
variable {σ α : Type} {eng : Engine σ} {s s' : Session σ} {id : ConnectionId}
  {gone : Option ConnectionId}

/-- What may own a shared connection: the name of a connection, or a statement. -/
inductive Owner where
  | handle (name : String)
  | statement (name : String)
deriving DecidableEq

def shared? (s : Session σ) : Owner → Option ConnectionId
  | .handle name => (s.connections.get? name).map NamedConnection.id
  | .statement name => (s.statements.get? name).map OwnedStatement.owner

theorem isOwned_iff : s.isOwned id = true ↔ ∃ o, s.shared? o = some id := by
  simp only [isOwned, Bool.or_eq_true, List.any_eq_true, OrderedMap.mem_values_iff, beq_iff_eq]
  constructor
  · rintro (⟨named, ⟨name, there⟩, rfl⟩ | ⟨st, ⟨name, there⟩, rfl⟩)
    · exact ⟨.handle name, by simp [shared?, there]⟩
    · exact ⟨.statement name, by simp [shared?, there]⟩
  · rintro ⟨name | name, same⟩
    · obtain ⟨named, there, same⟩ := Option.map_eq_some_iff.mp same
      exact .inl ⟨named, ⟨name, there⟩, same⟩
    · obtain ⟨st, there, same⟩ := Option.map_eq_some_iff.mp same
      exact .inr ⟨st, ⟨name, there⟩, same⟩

theorem isOwned_congr (same : s'.shared? = s.shared?) (id : ConnectionId) :
    s'.isOwned id = s.isOwned id := by
  rw [Bool.eq_iff_iff, isOwned_iff, isOwned_iff, same]

section Writes
variable {β : Type} {kind : String → Owner} {owner : β → ConnectionId} {name : String} {next : Option β}

/-- Where the owners of one kind are kept in a map, a write to the map or an erasure from it concerns the
owner of that name alone. -/
theorem shared?_written {before after : OrderedMap String β} (distinct : Function.Injective kind)
    (kept : ∀ n, s.shared? (kind n) = (before.get? n).map owner)
    (put : ∀ n, s'.shared? (kind n) = (after.get? n).map owner)
    (others : ∀ o, (∀ n, o ≠ kind n) → s'.shared? o = s.shared? o)
    (written : ∀ n, after.get? n = if name = n then next else before.get? n) :
    s'.shared? = Function.update s.shared? (kind name) (next.map owner) := by
  funext o
  by_cases ofKind : ∃ n, o = kind n
  · obtain ⟨n, rfl⟩ := ofKind
    by_cases same : name = n
    · rw [put, written, if_pos same, same, Function.update_self]
    · have other : kind n ≠ kind name := fun e => same (distinct e).symm
      rw [put, written, if_neg same, ← kept, Function.update_of_ne other]
  · have other (n : String) : o ≠ kind n := fun e => ofKind ⟨n, e⟩
    rw [others o other, Function.update_of_ne (other name)]

theorem shared?_connections {connections : OrderedMap String NamedConnection}
    {next : Option NamedConnection}
    (written : ∀ n, connections.get? n = if name = n then next else s.connections.get? n) :
    ({ s with connections } : Session σ).shared? =
      Function.update s.shared? (.handle name) (next.map NamedConnection.id) := by
  refine shared?_written (fun _ _ => Owner.handle.inj) (fun _ => rfl) (fun _ => rfl) ?_ written
  rintro (n | n) other
  · exact absurd rfl (other n)
  · rfl

theorem shared?_statements {statements : OrderedMap String OwnedStatement}
    {next : Option OwnedStatement}
    (written : ∀ n, statements.get? n = if name = n then next else s.statements.get? n) :
    ({ s with statements } : Session σ).shared? =
      Function.update s.shared? (.statement name) (next.map OwnedStatement.owner) := by
  refine shared?_written (fun _ _ => Owner.statement.inj) (fun _ => rfl) (fun _ => rfl) ?_ written
  rintro (n | n) other
  · rfl
  · exact absurd rfl (other n)

end Writes

/-- The live connections are those that have an owner, but for one that may have lost its last. -/
structure SettledBut (gone : Option ConnectionId) (s : Session σ) : Prop where
  standing : ∀ id, s.isOwned id = true → (s.live.get? id).isSome
  owned : ∀ id, (s.live.get? id).isSome → gone ≠ some id → s.isOwned id = true

abbrev Settled (s : Session σ) : Prop := SettledBut none s

theorem Settled.live_iff (settled : s.Settled) (id : ConnectionId) :
    (s.live.get? id).isSome = s.isOwned id := by
  rw [Bool.eq_iff_iff]
  exact ⟨fun live => settled.owned id live (by simp), settled.standing id⟩

theorem settled_start (engine : σ) : (start engine).Settled where
  standing id owned := by
    obtain ⟨_ | _, same⟩ := isOwned_iff.mp owned <;> cases same
  owned id live := by cases live

namespace SettledBut

theorem of_same (settled : SettledBut gone s) (live : ∀ id, (s'.live.get? id).isSome = (s.live.get? id).isSome)
    (same : s'.shared? = s.shared?) : SettledBut gone s' where
  standing id owned := by
    rw [live]
    exact settled.standing id (isOwned_congr same id ▸ owned)
  owned id there other := by
    rw [live] at there
    rw [isOwned_congr same]
    exact settled.owned id there other

/-- A connection that is opened has no owner yet. -/
theorem of_opened (settled : s.Settled) {c : Connection} (live : s'.live = s.live.insert id c)
    (same : s'.shared? = s.shared?) : SettledBut (some id) s' where
  standing id' owned := by
    rw [live, OrderedMap.get?_insert]
    split
    · rfl
    · exact settled.standing id' (isOwned_congr same id' ▸ owned)
  owned id' there other := by
    rw [live, OrderedMap.get?_insert, if_neg (by simpa using other)] at there
    rw [isOwned_congr same]
    exact settled.owned id' there (by simp)

/-- A connection that has an owner is not gone. -/
theorem settled (settled : SettledBut gone s) (owned : ∀ id, gone = some id → s.isOwned id = true) :
    s.Settled where
  standing := settled.standing
  owned id there _ := by
    by_cases given : gone = some id
    · exact owned id given
    · exact settled.owned id there given

/-- An owner that turns to something else, which is live, may leave what it referred to without an
owner. If there was a connection without any, the owner turns to that. -/
theorem turn (settled : SettledBut gone s) (o : Owner) {next : Option ConnectionId}
    (live : s'.live = s.live) (turned : s'.shared? = Function.update s.shared? o next)
    (takes : ∀ id, gone = some id → next = some id)
    (there : ∀ id, next = some id → (s.live.get? id).isSome) : SettledBut (s.shared? o) s' where
  standing id owned := by
    obtain ⟨o', same⟩ := isOwned_iff.mp owned
    rw [live]
    by_cases here : o' = o
    · rw [turned, here, Function.update_self] at same
      exact there id same
    · rw [turned, Function.update_of_ne here] at same
      exact settled.standing id (isOwned_iff.mpr ⟨o', same⟩)
  owned id alive other := by
    rw [live] at alive
    rw [isOwned_iff, turned]
    by_cases given : gone = some id
    · exact ⟨o, by rw [Function.update_self, takes id given]⟩
    · obtain ⟨o', same⟩ := isOwned_iff.mp (settled.owned id alive given)
      have elsewhere : o' ≠ o := fun here => other (here ▸ same)
      exact ⟨o', by rw [Function.update_of_ne elsewhere, same]⟩

theorem erase (settled : SettledBut (some id) s) (unowned : s.isOwned id = false) :
    Settled { s with live := s.live.erase id } where
  standing id' owned := by
    have other : id ≠ id' := by
      rintro rfl
      exact Bool.false_ne_true (unowned.symm.trans owned)
    have alive := settled.standing id' owned
    simpa [OrderedMap.get?_erase, other] using alive
  owned id' there _ := by
    rw [OrderedMap.get?_erase] at there
    by_cases here : id = id'
    · simp [here] at there
    · rw [if_neg here] at there
      exact settled.owned id' there (by simpa using here)

end SettledBut

end SqlBridge.Session
