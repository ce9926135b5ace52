import SqlBridge.Proofs.Fetch.ChosenMode
import SqlBridge.Proofs.Session.CommandRecords
import SqlBridge.Proofs.Session.SmallSteps

/-! # Connections over time

Numbers of connections are given out in order and never again. So a connection
that is there later under a number that was in use was there before, as it was
opened. This holds over every command and every request made during a fetch.
-/

namespace SqlBridge.Session
variable {σ α : Type} {eng : Engine σ} {s s' s'' : Session σ}

/-- What the connection of a number was opened with, if it is there. -/
def origin? (s : Session σ) (id : ConnectionId) : Option Connection.Origin :=
  (s.live.get? id).map Connection.origin

/-- The connections of the later session were there before as they are, or were opened in between with
well-keyed classes. -/
structure Grows (s s' : Session σ) : Prop where
  nextId : s.nextId ≤ s'.nextId
  origin : ∀ id o, s'.origin? id = some o →
    s.origin? id = some o ∨ (s.nextId ≤ id ∧ id < s'.nextId ∧ o.classes.WellKeyed)

namespace Grows

theorem of_kept (same : s'.nextId = s.nextId)
    (kept : ∀ id o, s'.origin? id = some o → s.origin? id = some o) : Grows s s' :=
  ⟨Nat.le_of_eq same.symm, fun id o there => .inl (kept id o there)⟩

theorem of_live (same : s'.nextId = s.nextId) (live : s'.live = s.live) : Grows s s' :=
  of_kept same fun id o there => by rwa [origin?, live] at there

theorem refl (s : Session σ) : Grows s s := of_live rfl rfl

theorem trans (first : Grows s s') (second : Grows s' s'') : Grows s s'' where
  nextId := Nat.le_trans first.nextId second.nextId
  origin id o there := by
    rcases second.origin id o there with before | ⟨fresh, used, keyed⟩
    · rcases first.origin id o before with before | ⟨fresh, used, keyed⟩
      · exact .inl before
      · exact .inr ⟨fresh, Nat.lt_of_lt_of_le used second.nextId, keyed⟩
    · exact .inr ⟨Nat.le_trans first.nextId fresh, used, keyed⟩

end Grows

theorem onShared_grows {act : StateM (Running σ) α} (keeps : Connection.KeepsOrigin act)
    (id : ConnectionId) (s : Session σ) : Grows s (onShared id act s).2 := by
  cases found : s.live.get? id with
  | none =>
    rw [onShared_missing found]
    exact .refl s
  | some c =>
    rw [onShared_found found]
    refine .of_kept rfl fun id' o there => ?_
    simp only [origin?, OrderedMap.get?_insert] at there ⊢
    split at there
    next same =>
      rw [← same, found]
      rw [Option.map_some, keeps] at there
      exact there
    next => exact there

/-- A small step opens no connection and leaves the others as they were opened. -/
theorem SmallStep.grows (step : SmallStep s s') : Grows s s' := by
  cases step with
  | work id act keeps => exact onShared_grows keeps id s
  | drop id =>
    refine .of_kept rfl fun id' o there => ?_
    simp only [origin?, OrderedMap.get?_erase] at there
    split at there
    · cases there
    · exact there
  | disconnect name => exact .of_live rfl rfl
  | free name => exact .of_live rfl rfl
  | moveOn there cursor mode objects => exact .of_live rfl rfl

theorem SmallSteps.grows (steps : SmallSteps s s') : Grows s s' := by
  induction steps with
  | refl => exact .refl s
  | tail _ step ih => exact ih.trans step.grows

section Making

theorem execute_grows (eng : Engine σ) (name : String) (params : List Value) (s : Session σ) :
    Grows s (execute eng name params s).2 := by
  rw [execute, get_bind]
  cases s.statements.get? name with
  | none => exact .refl s
  | some st =>
    have ran := onShared_grows (Connection.execute_keepsOrigin eng st.statement params) st.owner s
    simp only [Engine.bind_apply]
    rcases result : onShared st.owner (Connection.execute eng st.statement params) s with ⟨_ | _, s'⟩
    all_goals rw [result] at ran
    · exact ran
    · exact ran.trans (.of_live rfl rfl)

theorem keep_grows (eng : Engine σ) (name : String) (st : OwnedStatement) (s : Session σ) :
    Grows s (keep eng name st s).2 := by
  let kept := { s with statements := s.statements.insert name st }
  have written : Grows s kept := .of_live rfl rfl
  rw [keep, get_bind]
  cases s.statements.get? name with
  | none => exact written
  | some old => exact written.trans (release_steps eng old.owner kept).grows

theorem makeStatement_grows {make : StateM (Running σ) (Except Error (Option Statement))}
    (keeps : Connection.KeepsOrigin make) (connection keepAs : String) (s : Session σ) :
    Grows s (makeStatement eng connection keepAs make s).2 := by
  cases named? : s.connections.get? connection with
  | none =>
    rw [makeStatement_unnamed named?]
    exact .refl s
  | some named =>
    have made := onShared_grows keeps named.id s
    rw [makeStatement_named named?]
    rcases result : onShared named.id make s with ⟨_ | (e | (_ | st)), s₁⟩
    all_goals rw [result] at made
    · exact made
    · exact made
    · exact made
    · exact made.trans (keep_grows eng keepAs ⟨named.id, st⟩ s₁)

theorem connect_grows (name dsn : String) {options : ConnectionOptions}
    (keyed : options.classes.WellKeyed) (s : Session σ) :
    Grows s (connect eng name dsn options s).2 := by
  rw [connect, get_bind]
  rcases connected : Connection.connect eng dsn options s.engine with ⟨e | ⟨c, params⟩, engine⟩
  · exact .of_live rfl rfl
  · let added : Session σ := { s with
      engine
      live := s.live.insert s.nextId c
      connections := s.connections.insert name ⟨s.nextId, params⟩
      nextId := s.nextId + 1 }
    have opened : Grows s added := by
      refine ⟨Nat.le_succ _, fun id o there => ?_⟩
      simp only [added, origin?, OrderedMap.get?_insert] at there
      split at there
      next same =>
        rw [← same]
        rw [Option.map_some, Option.some_inj] at there
        have state := Connection.connect_state (congrArg Prod.fst connected)
        refine .inr ⟨Nat.le_refl _, Nat.lt_succ_self _, ?_⟩
        rw [← there, Connection.origin, state]
        exact keyed
      next => exact .inl there
    cases s.connections.get? name with
    | none => exact opened
    | some old => exact opened.trans (release_steps eng old.id added).grows

end Making

/-- A connection is opened with classes that were registered one after another. -/
def Command.Registers : Command → Prop
  | connect _ _ options => ∃ classes, options.classes = ClassTable.standard.insertAll classes
  | _ => True

theorem operate_grows (eng : Engine σ) (connection : String) (op : Connection.Operation)
    (keepAs : String) (s : Session σ) :
    Grows s (Command.performOperation eng connection keepAs op s).2 := by
  have keeps := Connection.perform_keepsOrigin eng op
  cases op with
  | exec | begin | commit | rollBack => exact (onConnection_steps keeps connection s).grows
  | query | queryMode | queryStyle | prepare => exact makeStatement_grows keeps connection keepAs s

theorem perform_grows (eng : Engine σ) (command : Command) (registers : command.Registers)
    (s : Session σ) : Grows s (command.perform eng s).2 := by
  cases command with
  | connect name dsn options =>
    obtain ⟨classes, registered⟩ := registers
    apply connect_grows name dsn
    rw [registered]
    exact ClassTable.wellKeyed_standard.insertAll classes
  | operate connection op keepAs => exact operate_grows eng connection op keepAs s
  | execute name params => exact execute_grows eng name params s
  | _ => exact (perform_steps eng rfl s).grows

/-- One step of a session: a command of the caller, or a request that a constructor makes. -/
inductive Moves (eng : Engine σ) (s : Session σ) : Session σ → Prop where
  | command (command : Command) (registers : command.Registers) :
      Moves eng s (command.perform eng s).2
  | request (connection : String) (request : Request) :
      Moves eng s (respond eng connection request s).2

/-- A session in which any number of steps have been made since. -/
def Later (eng : Engine σ) : Session σ → Session σ → Prop := Relation.ReflTransGen (Moves eng)

theorem later_performAll (eng : Engine σ) {commands : List Command}
    (registers : ∀ command ∈ commands, command.Registers) (s : Session σ) :
    Later eng s (performAll eng commands s).2 := by
  induction commands generalizing s with
  | nil => exact .refl
  | cons command rest ih =>
    have first : Moves eng s (command.perform eng s).2 := .command command (registers command (by simp))
    exact .head first (ih (fun command mem => registers command (List.mem_cons_of_mem _ mem)) _)

theorem fetchUpTo_error {name : String} {mode : Option FetchMode} {n : Nat} {e : Error}
    (failed : (fetchUpTo eng name mode n s).1 = some (.error e)) :
    ∃ s', Later eng s s' ∧ (fetch eng name mode s').1 = some (.error e) := by
  induction n generalizing s with
  | zero => cases failed
  | succ n ih =>
    have first : Moves eng s (fetch eng name mode s).2 := .command (.fetch name mode) trivial
    rw [fetchUpTo_succ] at failed
    rcases fetched : fetch eng name mode s with ⟨_ | (e' | (_ | row)), s₁⟩
    all_goals rw [fetched] at failed first
    · cases failed
    · cases failed
      exact ⟨s, .refl, by rw [fetched]⟩
    · cases failed
    · obtain ⟨result, rest, failed⟩ := Option.map_eq_some_iff.mp failed
      rw [error_of_map failed] at rest
      obtain ⟨s', later, there⟩ := ih rest
      exact ⟨s', .head first later, there⟩

theorem fetchAll_error {name : String} {mode : Option FetchMode} {e : Error}
    (failed : (fetchAll eng name mode s).1 = some (.error e)) :
    ∃ s', Later eng s s' ∧ (fetch eng name mode s').1 = some (.error e) := by
  rw [fetchAll, get_bind] at failed
  cases known : s.statements.get? name with
  | none =>
    rw [known] at failed
    cases failed
  | some st =>
    rw [known] at failed
    exact fetchUpTo_error failed

theorem Later.grows (later : Later eng s s') : Grows s s' := by
  induction later with
  | refl => exact .refl s
  | tail _ step ih =>
    cases step with
    | command command registers => exact ih.trans (perform_grows eng command registers _)
    | request connection request => exact ih.trans (respond_steps eng connection request _).grows

/-- In a session that was started without connections, the numbers in use were given out, and all
classes are well-keyed. -/
theorem Later.origin_of_start {engine : σ} (reached : Later eng (start engine) s) {id : ConnectionId}
    {o : Connection.Origin} (there : s.origin? id = some o) :
    id < s.nextId ∧ o.classes.WellKeyed := by
  rcases reached.grows.origin id o there with before | ⟨-, used, keyed⟩
  · rw [origin?, start, OrderedMap.get?_empty] at before
    cases before
  · exact ⟨used, keyed⟩

/-- A connection that is there before and after is as it was opened. -/
theorem Later.origin_eq (later : Later eng s s') {id : ConnectionId} {o o' : Connection.Origin}
    (before : s.origin? id = some o) (used : id < s.nextId) (after : s'.origin? id = some o') :
    o' = o := by
  rcases later.grows.origin id o' after with same | ⟨fresh, -, -⟩
  · exact Option.some_inj.mp (same.symm.trans before)
  · exact absurd used (Nat.not_lt.mpr fresh)

end SqlBridge.Session
