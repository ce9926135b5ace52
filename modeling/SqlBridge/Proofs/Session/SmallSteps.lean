import Mathlib.Logic.Relation
import SqlBridge.Proofs.Connection.Origin
import SqlBridge.Proofs.Session.Command
import SqlBridge.Proofs.Session.Fetch

/-! # Small steps of a session

Most of what a session does is put together from a few small steps: a connection
works, a connection or a name goes away, a statement moves on. None of them opens
a connection, makes a statement or executes one. What each of them preserves,
every reading of a statement preserves, and so does whatever gives a name up.
-/

namespace SqlBridge.Session
variable {σ α : Type} {eng : Engine σ} {s s' : Session σ}

inductive SmallStep (s : Session σ) : Session σ → Prop where
  | work {α : Type} (id : ConnectionId) (act : StateM (Running σ) α)
      (keeps : Connection.KeepsOrigin act) : SmallStep s (onShared id act s).2
  | drop (id : ConnectionId) : SmallStep s { s with live := s.live.erase id }
  | disconnect (name : String) : SmallStep s { s with connections := s.connections.erase name }
  | free (name : String) : SmallStep s { s with statements := s.statements.erase name }
  /-- A statement is read, or its mode is chosen. -/
  | moveOn {name : String} {st : OwnedStatement} (there : s.statements.get? name = some st)
      (cursor : Nat) (mode : Option FetchMode) (objects : ObjectStore) :
      SmallStep s { s with
        objects
        statements := s.statements.insert name
          { st with statement := { st.statement with cursor, mode } } }

abbrev SmallSteps : Session σ → Session σ → Prop := Relation.ReflTransGen SmallStep

theorem onConnection_steps {act : StateM (Running σ) α} (keeps : Connection.KeepsOrigin act)
    (name : String) (s : Session σ) : SmallSteps s (onConnection name act s).2 := by
  rw [onConnection_apply]
  cases s.connections.get? name with
  | none => exact .refl
  | some named => exact .single (.work named.id act keeps)

theorem respond_steps (eng : Engine σ) (connection : String) (request : Request) (s : Session σ) :
    SmallSteps s (respond eng connection request s).2 :=
  onConnection_steps (Connection.respond_keepsOrigin eng request) connection s

section Reading
variable (eng) (name : String)

/-- A fetch moves the cursor of the statement, or it leaves the statement as it was. -/
theorem run_fetch_statement {τ : Type} (respond : String → Request → StateM τ Answer)
    (st : Statement) (state : Connection.State) (asked : Option FetchMode) (objects : ObjectStore)
    (s : τ) :
    ∃ cursor, ((st.fetch state asked objects).run respond s).1.2.1 = { st with cursor } := by
  rw [Statement.run_fetch]
  cases st.current? with
  | none => exact ⟨_, rfl⟩
  | some row =>
    simp only
    split
    · exact ⟨st.cursor + 1, rfl⟩
    · exact ⟨st.cursor, rfl⟩

theorem fetch_steps (mode : Option FetchMode) (s : Session σ) :
    SmallSteps s (fetch eng name mode s).2 := by
  cases found : s.statement? name with
  | none =>
    rw [fetch_missing found]
  | some p =>
    obtain ⟨st, state⟩ := p
    rw [fetch_found found]
    let work := st.statement.fetch state mode s.objects
    have worked : SmallSteps s (work.run (respond eng) s).2 :=
      work.run_preserves (fun c r s' steps => steps.trans (respond_steps eng c r s')) .refl
    have there : (work.run (respond eng) s).2.statements.get? name = some st := by
      rw [(run_sameNames work s).statements]
      exact (statement?_eq_some.mp found).1
    obtain ⟨cursor, moved⟩ :=
      run_fetch_statement (respond eng) st.statement state mode s.objects s
    have step := SmallStep.moveOn there cursor st.statement.mode (work.run (respond eng) s).1.2.2
    rw [← moved] at step
    exact worked.tail step

theorem fetchUpTo_steps (mode : Option FetchMode) (n : Nat) (s : Session σ) :
    SmallSteps s (fetchUpTo eng name mode n s).2 := by
  induction n generalizing s with
  | zero => exact .refl
  | succ n ih =>
    have first := fetch_steps eng name mode s
    rw [fetchUpTo_succ]
    rcases fetched : fetch eng name mode s with ⟨_ | (e | (_ | row)), s'⟩
    all_goals rw [fetched] at first
    · exact first
    · exact first
    · exact first
    · exact first.trans (ih s')

theorem fetchAll_steps (mode : Option FetchMode) (s : Session σ) :
    SmallSteps s (fetchAll eng name mode s).2 := by
  rw [fetchAll, get_bind]
  cases s.statements.get? name with
  | none => exact .refl
  | some st => exact fetchUpTo_steps eng name mode st.statement.remaining s

theorem fetchColumn_steps (i : Nat) (s : Session σ) : SmallSteps s (fetchColumn name i s).2 := by
  cases found : s.statement? name with
  | none =>
    rw [fetchColumn_missing found]
  | some p =>
    obtain ⟨st, state⟩ := p
    rw [fetchColumn_found found]
    have moved : ∃ cursor, (st.statement.fetchColumn state i).2 = { st.statement with cursor } := by
      rw [Statement.fetchColumn]
      split
      · exact ⟨st.statement.cursor, rfl⟩
      · exact ⟨st.statement.cursor + 1, rfl⟩
    obtain ⟨cursor, moved⟩ := moved
    have step := SmallStep.moveOn (statement?_eq_some.mp found).1 cursor st.statement.mode s.objects
    rw [← moved] at step
    exact .single step

theorem setFetchMode_steps (style : FetchStyle) (args : List Argument) (s : Session σ) :
    SmallSteps s (setFetchMode name style args s).2 := by
  cases found : s.statement? name with
  | none =>
    rw [setFetchMode_missing found]
  | some p =>
    obtain ⟨st, state⟩ := p
    rw [setFetchMode_found found]
    have chosen : ∃ mode, (st.statement.setFetchMode state s.objects style args).2 =
        { st.statement with mode } := by
      rw [Statement.setFetchMode]
      split <;> exact ⟨_, rfl⟩
    obtain ⟨mode, chosen⟩ := chosen
    have step := SmallStep.moveOn (statement?_eq_some.mp found).1 st.statement.cursor mode s.objects
    rw [← chosen] at step
    exact .single step

end Reading

section GivingUp

theorem release_steps (eng : Engine σ) (id : ConnectionId) (s : Session σ) :
    SmallSteps s (release eng id s).2 := by
  rw [release, get_bind]
  split
  · have closed := SmallStep.work (s := s) id (Connection.close eng) (Connection.close_keepsOrigin eng)
    exact .tail (.single closed) (.drop id)
  · exact .refl

theorem disconnect_steps (eng : Engine σ) (name : String) (s : Session σ) :
    SmallSteps s (disconnect eng name s).2 := by
  rw [disconnect, get_bind]
  cases s.connections.get? name with
  | none => exact .refl
  | some c => exact .head (.disconnect name) (release_steps eng c.id _)

theorem free_steps (eng : Engine σ) (name : String) (s : Session σ) :
    SmallSteps s (free eng name s).2 := by
  rw [free, get_bind]
  cases s.statements.get? name with
  | none => exact .refl
  | some st => exact .head (.free name) (release_steps eng st.owner _)

end GivingUp

/-- Commands that open no connection, make no statement and execute none. -/
def Command.isSmall : Command → Bool
  | connect _ _ _ | operate _ _ _ | execute _ _ => false
  | _ => true

theorem perform_steps (eng : Engine σ) {command : Command} (small : command.isSmall = true)
    (s : Session σ) : SmallSteps s (command.perform eng s).2 := by
  cases command with
  | connect | operate | execute => cases small
  | disconnect name => exact disconnect_steps eng name s
  | free name => exact free_steps eng name s
  | setAttribute connection attr v =>
    exact onConnection_steps (Connection.setAttribute_keepsOrigin attr v) connection s
  | getAttribute connection attr =>
    exact onConnection_steps (Connection.getAttribute_keepsOrigin eng attr) connection s
  | lastInsertId connection => exact onConnection_steps (fun _ => rfl) connection s
  | inTransaction connection => exact onConnection_steps (fun _ => rfl) connection s
  | errorInfo connection => exact onConnection_steps (fun _ => rfl) connection s
  | errorCode connection => exact onConnection_steps (fun _ => rfl) connection s
  | fetch name mode => exact fetch_steps eng name mode s
  | fetchAll name mode => exact fetchAll_steps eng name mode s
  | fetchColumn name i => exact fetchColumn_steps name i s
  | setFetchMode name style args => exact setFetchMode_steps name style args s

end SqlBridge.Session
