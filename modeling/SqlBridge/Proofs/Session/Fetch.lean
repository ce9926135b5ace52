import SqlBridge.Proofs.Engine.Execution
import SqlBridge.Session

/-! # Fetching in a session

While a row is laid out its constructor may ask connections by their names. The
requests change the connections at work, and nothing else of the session: no
statement, no name and no shared object. So a fetch is the statement's own work
and one write, and each reading of a statement is given here by one equation.
-/

namespace SqlBridge

namespace Callout
variable {α β τ : Type} {respond : String → Request → StateM τ Answer}

theorem run_map (f : α → β) (work : Callout α) (s : τ) :
    (work.map f).run respond s = (f (work.run respond s).1, (work.run respond s).2) := by
  induction work generalizing s with
  | done a => rfl
  | ask c r next ih => exact ih (respond c r s).1 (respond c r s).2

/-- What every answer preserves, the whole work preserves. -/
theorem run_preserves {P : τ → Prop} (kept : ∀ c r s, P s → P (respond c r s).2)
    (work : Callout α) {s : τ} (holds : P s) : P (work.run respond s).2 := by
  induction work generalizing s with
  | done a => exact holds
  | ask c r next ih => exact ih _ (kept c r s holds)

end Callout

/-- A fetch lays out the current row and moves on if that succeeds. -/
theorem Statement.run_fetch {τ : Type} (respond : String → Request → StateM τ Answer)
    (st : Statement) (state : Connection.State) (asked : Option FetchMode) (objects : ObjectStore)
    (s : τ) :
    (st.fetch state asked objects).run respond s =
      match st.current? with
      | none => ((.ok none, st, objects), s)
      | some row =>
        let after := (layOut state.layoutSettings row (st.fetchMode state asked) objects).run respond s
        match after.1.1 with
        | .ok fetched => ((.ok (some fetched), st.next, after.1.2), after.2)
        | .error e => ((.error e, st, after.1.2), after.2) := by
  rw [fetch]
  cases st.current? with
  | none => rfl
  | some row =>
    simp only [Callout.run_map]
    rcases (layOut state.layoutSettings row (st.fetchMode state asked) objects).run respond s
      with ⟨⟨_ | fetched, objects'⟩, s'⟩ <;> rfl

namespace Session
variable {σ α : Type} {eng : Engine σ} {s s' s'' : Session σ}

/-- The sessions differ at most in the engine, the log and the state of live connections. -/
structure SameNames (s s' : Session σ) : Prop where
  objects : s'.objects = s.objects
  connections : s'.connections = s.connections
  statements : s'.statements = s.statements
  live (id : ConnectionId) : (s'.live.get? id).isSome = (s.live.get? id).isSome

namespace SameNames

theorem refl (s : Session σ) : SameNames s s := ⟨rfl, rfl, rfl, fun _ => rfl⟩

theorem trans (first : SameNames s s') (second : SameNames s' s'') : SameNames s s'' where
  objects := second.objects.trans first.objects
  connections := second.connections.trans first.connections
  statements := second.statements.trans first.statements
  live id := (second.live id).trans (first.live id)

end SameNames

theorem get_bind (f : Session σ → StateM (Session σ) α) (s : Session σ) : (get >>= f) s = f s s :=
  rfl

theorem onShared_missing {id : ConnectionId} (missing : s.live.get? id = none)
    (act : StateM (Running σ) α) : onShared id act s = (none, s) := by
  rw [onShared, missing]

theorem onShared_found {id : ConnectionId} {c : Connection} (found : s.live.get? id = some c)
    (act : StateM (Running σ) α) :
    onShared id act s =
      let after := act ⟨s.engine, c, s.warnings⟩
      (some after.1, { s with
        engine := after.2.engine
        warnings := after.2.warnings
        live := s.live.insert id after.2.connection }) := by
  rw [onShared, found]
  rfl

theorem onConnection_apply (name : String) (act : StateM (Running σ) α) :
    onConnection name act s =
      match s.connections.get? name with
      | none => (none, s)
      | some named => onShared named.id act s := by
  rw [onConnection, get_bind]
  cases s.connections.get? name <;> rfl

/-- The shared connection that a name stands for. -/
def atWork? (s : Session σ) (connection : String) : Option (ConnectionId × Connection) := do
  let named ← s.connections.get? connection
  let c ← s.live.get? named.id
  return (named.id, c)

section Working
variable {connection : String} {id : ConnectionId} {c : Connection}

theorem atWork?_eq_some :
    s.atWork? connection = some (id, c) ↔
      ∃ named, s.connections.get? connection = some named ∧ named.id = id ∧
        s.live.get? id = some c := by
  simp only [atWork?, Option.bind_eq_bind, Option.bind_eq_some_iff, Option.pure_def,
    Option.some_inj, Prod.mk.injEq]
  constructor
  · rintro ⟨named, there, c', live, rfl, rfl⟩
    exact ⟨named, there, rfl, live⟩
  · rintro ⟨named, there, rfl, live⟩
    exact ⟨named, there, c, live, rfl, rfl⟩

theorem onConnection_atWork (there : s.atWork? connection = some (id, c))
    (act : StateM (Running σ) α) : onConnection connection act s = onShared id act s := by
  obtain ⟨named, known, rfl, -⟩ := atWork?_eq_some.mp there
  rw [onConnection_apply, known]

theorem onConnection_unchanged (there : s.atWork? connection = some (id, c))
    {act : StateM (Running σ) α} {a : α}
    (same : act ⟨s.engine, c, s.warnings⟩ = (a, ⟨s.engine, c, s.warnings⟩)) :
    onConnection connection act s = (some a, s) := by
  obtain ⟨-, -, -, live⟩ := atWork?_eq_some.mp there
  simp only [onConnection_atWork there, onShared_found live, same, OrderedMap.insert_of_get? live]

theorem onConnection_reply (there : s.atWork? connection = some (id, c))
    (act : StateM (Running σ) α) :
    (onConnection connection act s).1 = some (act ⟨s.engine, c, s.warnings⟩).1 := by
  obtain ⟨-, -, -, live⟩ := atWork?_eq_some.mp there
  rw [onConnection_atWork there, onShared_found live]

theorem onConnection_idle (idle : s.atWork? connection = none) (act : StateM (Running σ) α) :
    onConnection connection act s = (none, s) := by
  rw [onConnection_apply]
  cases known : s.connections.get? connection with
  | none => rfl
  | some named =>
    cases found : s.live.get? named.id with
    | none => exact onShared_missing found act
    | some c => simp [atWork?, known, found] at idle

/-- There is a reply only of a connection that is at work. -/
theorem atWork?_of_reply {act : StateM (Running σ) α} {a : α}
    (replied : (onConnection connection act s).1 = some a) :
    ∃ id c, s.atWork? connection = some (id, c) := by
  cases there : s.atWork? connection with
  | none =>
    rw [onConnection_idle there] at replied
    cases replied
  | some at_ => exact ⟨at_.1, at_.2, rfl⟩

end Working

theorem onShared_sameNames (id : ConnectionId) (act : StateM (Running σ) α) (s : Session σ) :
    SameNames s (onShared id act s).2 := by
  cases found : s.live.get? id with
  | none =>
    rw [onShared_missing found]
    exact .refl s
  | some c =>
    rw [onShared_found found]
    refine ⟨rfl, rfl, rfl, fun id' => ?_⟩
    rw [OrderedMap.get?_insert]
    split
    next same => rw [← same, found]; rfl
    next => rfl

theorem onConnection_sameNames (name : String) (act : StateM (Running σ) α) (s : Session σ) :
    SameNames s (onConnection name act s).2 := by
  rw [onConnection_apply]
  cases s.connections.get? name with
  | none => exact .refl s
  | some named => exact onShared_sameNames named.id act s

theorem respond_sameNames (connection : String) (r : Request) (s : Session σ) :
    SameNames s (respond eng connection r s).2 :=
  onConnection_sameNames connection (Connection.respond eng r) s

theorem run_sameNames (work : Callout α) (s : Session σ) :
    SameNames s (work.run (respond eng) s).2 :=
  work.run_preserves (fun c r _ same => same.trans (respond_sameNames c r _)) (.refl s)

variable {name : String} {st : OwnedStatement} {state : Connection.State}

theorem statement?_eq_some :
    s.statement? name = some (st, state) ↔
      s.statements.get? name = some st ∧ ∃ c, s.live.get? st.owner = some c ∧ c.state = state := by
  simp only [statement?, Option.bind_eq_bind, Option.bind_eq_some_iff, Option.pure_def,
    Option.some_inj, Prod.mk.injEq]
  constructor
  · rintro ⟨st', found, c, owner, rfl, same⟩
    exact ⟨found, c, owner, same⟩
  · rintro ⟨found, c, owner, same⟩
    exact ⟨st, found, c, owner, rfl, same⟩

theorem putStatement_unchanged (there : s.statements.get? name = some st) :
    (putStatement name st s).2 = s := by
  change { s with statements := s.statements.insert name st } = s
  rw [OrderedMap.insert_of_get? there]

theorem fetch_missing (missing : s.statement? name = none) (mode : Option FetchMode) :
    fetch eng name mode s = (none, s) := by
  rw [fetch, get_bind]
  simp only [missing]
  rfl

theorem fetch_found (found : s.statement? name = some (st, state)) (mode : Option FetchMode) :
    fetch eng name mode s =
      let after := (st.statement.fetch state mode s.objects).run (respond eng) s
      (some after.1.1, { after.2 with
        objects := after.1.2.2
        statements := after.2.statements.insert name { st with statement := after.1.2.1 } }) := by
  rw [fetch, get_bind]
  simp only [found]
  rfl

theorem fetchUpTo_succ (name : String) (mode : Option FetchMode) (n : Nat) (s : Session σ) :
    fetchUpTo eng name mode (n + 1) s =
      match fetch eng name mode s with
      | (none, s') => (none, s')
      | (some (.error e), s') => (some (.error e), s')
      | (some (.ok none), s') => (some (.ok []), s')
      | (some (.ok (some row)), s') =>
        let rest := fetchUpTo eng name mode n s'
        (rest.1.map fun result => result.map (row :: ·), rest.2) := by
  rw [fetchUpTo, Engine.bind_apply]
  rcases fetch eng name mode s with ⟨_ | (e | (_ | row)), s'⟩ <;> rfl

theorem fetchAll_found (found : s.statements.get? name = some st) (mode : Option FetchMode) :
    fetchAll eng name mode s = fetchUpTo eng name mode st.statement.remaining s := by
  rw [fetchAll, get_bind]
  simp only [found]

theorem fetchColumn_missing (missing : s.statement? name = none) (i : Nat) :
    fetchColumn name i s = (none, s) := by
  rw [fetchColumn, get_bind]
  simp only [missing]
  rfl

theorem fetchColumn_found (found : s.statement? name = some (st, state)) (i : Nat) :
    fetchColumn name i s =
      let after := st.statement.fetchColumn state i
      (some after.1, (putStatement name { st with statement := after.2 } s).2) := by
  rw [fetchColumn, get_bind]
  simp only [found]
  rfl

theorem setFetchMode_missing (missing : s.statement? name = none) (style : FetchStyle)
    (args : List Argument) : setFetchMode name style args s = (none, s) := by
  rw [setFetchMode, get_bind]
  simp only [missing]
  rfl

theorem setFetchMode_found (found : s.statement? name = some (st, state)) (style : FetchStyle)
    (args : List Argument) :
    setFetchMode name style args s =
      let after := st.statement.setFetchMode state s.objects style args
      (some after.1, (putStatement name { st with statement := after.2 } s).2) := by
  rw [setFetchMode, get_bind]
  simp only [found]
  rfl

end Session
end SqlBridge
