import SqlBridge.Proofs.Session.Records

/-! # The account of a run

Every command accounts for what it does to the slots by its events: a statement
that is fetched from or put back, a connection that is released, a statement that
is made and kept. A run of commands accounts for what it does by its history.
-/

namespace SqlBridge.Session
variable {σ α : Type} {eng : Engine σ} {s : Session σ} {events : List Event}

section Statements
variable {name : String} {st : OwnedStatement} {state : Connection.State}

theorem put_records (events : List Event) (kept : s.statements.get? name = some st)
    (st' : OwnedStatement)
    (own : ∀ e ∈ events, e.slot = .statement name)
    (told : ∀ e ∈ events, e.info.isSuccess = !e.isFailure)
    (last : st'.statement.error =
      ((latest? (.statement name) events).map Event.info).getD st.statement.error)
    (objects : ObjectStore) :
    Records s events { s with objects, statements := s.statements.insert name st' } := by
  have held := info?_insert_statements s name st'
  refine .of_slot own told ?_ fun slot other => (held slot).trans (if_neg other)
  rw [show s.info? (.statement name) = some st.statement.error by simp [info?, kept], Option.or_some,
    ← last]
  exact (held _).trans (if_pos rfl)

theorem put_kept (kept : s.statements.get? name = some st) (st' : OwnedStatement)
    (same : st'.statement.error = st.statement.error) (objects : ObjectStore) :
    Records s [] { s with objects, statements := s.statements.insert name st' } :=
  put_records [] kept st' (by simp) (by simp) same objects

/-- Fetching does not touch the last error of the statement. -/
theorem run_fetch_error {τ : Type} (respond : String → Request → StateM τ Answer) (st : Statement)
    (asked : Option FetchMode) (objects : ObjectStore) (s : τ) :
    ((st.fetch state asked objects).run respond s).1.2.1.error = st.error := by
  rw [Statement.run_fetch]
  cases st.current? with
  | none => rfl
  | some row =>
    simp only
    split <;> rfl

theorem fetch_records (name : String) (mode : Option FetchMode) (s : Session σ) :
    Records s (fetchEvents eng name mode s) (fetch eng name mode s).2 := by
  rw [fetchEvents]
  cases found : s.statement? name with
  | none =>
    rw [fetch_missing found]
    exact .refl s
  | some p =>
    obtain ⟨st, state⟩ := p
    rw [fetch_found found]
    let work := st.statement.fetch state mode s.objects
    have kept : (work.run (respond eng) s).2.statements.get? name = some st := by
      rw [(run_sameNames work s).statements]
      exact (statement?_eq_some.mp found).1
    have written := put_kept kept { st with statement := (work.run (respond eng) s).1.2.1 }
      (run_fetch_error _ _ _ _ _) (work.run (respond eng) s).1.2.2
    simpa using (callout_records work s).trans written

theorem fetchUpTo_records (name : String) (mode : Option FetchMode) (n : Nat) (s : Session σ) :
    Records s (fetchUpToEvents eng name mode n s) (fetchUpTo eng name mode n s).2 := by
  induction n generalizing s with
  | zero => exact .refl s
  | succ n ih =>
    have first : Records s (fetchEvents eng name mode s) _ := fetch_records name mode s
    rw [fetchUpToEvents, fetchUpTo_succ]
    rcases fetched : fetch eng name mode s with ⟨_ | (e | (_ | row)), s'⟩
    all_goals simp only [fetched, List.append_nil] at first ⊢
    · exact first
    · exact first
    · exact first
    · exact first.trans (ih s')

theorem fetchAll_records (name : String) (mode : Option FetchMode) (s : Session σ) :
    Records s (fetchAllEvents eng name mode s) (fetchAll eng name mode s).2 := by
  rw [fetchAllEvents, fetchAll, get_bind]
  cases s.statements.get? name with
  | none => exact .refl s
  | some st => exact fetchUpTo_records name mode st.statement.remaining s

theorem fetchColumn_records (name : String) (i : Nat) (s : Session σ) :
    Records s [] (fetchColumn name i s).2 := by
  cases found : s.statement? name with
  | none =>
    rw [fetchColumn_missing found]
    exact .refl s
  | some p =>
    rw [fetchColumn_found found]
    refine put_kept (statement?_eq_some.mp found).1 _ ?_ s.objects
    rw [Statement.fetchColumn]
    split <;> rfl

theorem setFetchMode_records (name : String) (style : FetchStyle) (args : List Argument)
    (s : Session σ) : Records s [] (setFetchMode name style args s).2 := by
  cases found : s.statement? name with
  | none =>
    rw [setFetchMode_missing found]
    exact .refl s
  | some p =>
    rw [setFetchMode_found found]
    refine put_kept (statement?_eq_some.mp found).1 _ ?_ s.objects
    rw [Statement.setFetchMode]
    split <;> rfl

theorem execute_records (name : String) (params : List Value) (s : Session σ) :
    Records s (executeEvents eng name params s) (execute eng name params s).2 := by
  rw [executeEvents, execute, get_bind]
  cases prepared : s.statements.get? name with
  | none => exact .refl s
  | some st =>
    cases found : s.live.get? st.owner with
    | none =>
      simp only [Engine.bind_apply, onShared_missing found, found]
      exact .refl s
    | some c =>
      let act := Connection.execute eng st.statement params
      let s₁ := (onShared st.owner act s).2
      have ran : Records s [] s₁ :=
        onShared_kept act (Connection.execute_lastError st.statement params) st.owner s
      have kept : s₁.statements.get? name = some st := by
        rw [(onShared_sameNames st.owner act s).statements, prepared]
      let outcome := (eng.run c.handle st.statement.sql params s.engine).1
      have written := put_records (reported (.statement name) outcome) kept
        { st with statement := (act ⟨s.engine, c, s.warnings⟩).1.2 }
        (fun e mem => slot_of_reported mem)
        (fun e mem => told_of_reported
          (fun e failed _ => (Engine.runError_of_run failed).ofError_ne_success) mem)
        (by
          rw [latest?_reported c.state.errorMode .execute]
          exact Connection.execute_error st.statement params _)
        s₁.objects
      simp only [Engine.bind_apply, found]
      simp only [s₁, onShared_found found] at written ran ⊢
      exact ran.trans written

end Statements

section Owners
variable {name : String} {st : OwnedStatement}

/-- Slots that go away need no account. -/
theorem erase_kept (id : ConnectionId) (s : Session σ) :
    Records s [] { s with live := s.live.erase id } := by
  refine .of_kept fun slot last known => ?_
  cases slot with
  | statement name => exact known
  | connection id' =>
    simp only [info?, OrderedMap.get?_erase] at known
    split at known
    · cases known
    · exact known

theorem release_kept (id : ConnectionId) (s : Session σ) : Records s [] (release eng id s).2 := by
  rw [release, get_bind]
  split
  · exact (onShared_kept _ Connection.close_lastError id s).trans (erase_kept id _)
  · exact .refl s

theorem disconnect_kept (name : String) (s : Session σ) :
    Records s [] (disconnect eng name s).2 := by
  rw [disconnect, get_bind]
  cases s.connections.get? name with
  | none => exact .refl s
  | some c =>
    let unnamed := { s with connections := s.connections.erase name }
    change Records s [] (release eng c.id unnamed).2
    have dropped : Records s [] unnamed := .of_kept fun _ _ same => same
    exact dropped.trans (release_kept c.id unnamed)

theorem free_kept (name : String) (s : Session σ) : Records s [] (free eng name s).2 := by
  rw [free, get_bind]
  cases s.statements.get? name with
  | none => exact .refl s
  | some st =>
    let unnamed := { s with statements := s.statements.erase name }
    change Records s [] (release eng st.owner unnamed).2
    have dropped : Records s [] unnamed := by
      refine .of_kept fun slot last known => ?_
      cases slot with
      | connection id => exact known
      | statement name' =>
        simp only [unnamed, info?, OrderedMap.get?_erase] at known
        split at known
        · cases known
        · exact known
    exact dropped.trans (release_kept st.owner unnamed)

/-- A statement that is kept opens the slot of its name. -/
theorem keep_records (fresh : st.statement.error = .success) (name : String) (s : Session σ) :
    Records s [.opened (.statement name)] (keep eng name st s).2 := by
  let kept := { s with statements := s.statements.insert name st }
  have held := info?_insert_statements s name st
  have opened : Records s [.opened (.statement name)] kept :=
    .of_opened ((held _).trans ((if_pos rfl).trans (congrArg some fresh)))
      fun slot other => (held slot).trans (if_neg other)
  rw [keep, get_bind]
  cases s.statements.get? name with
  | none => exact opened
  | some old => exact opened.trans (release_kept old.owner kept)

end Owners

section Commands

section Making
variable {connection keepAs : String} {make : StateM (Running σ) (Except Error (Option Statement))}

theorem makeStatement_unnamed (missing : s.connections.get? connection = none) :
    makeStatement eng connection keepAs make s = (none, s) := by
  rw [makeStatement, get_bind]
  simp only [missing]
  rfl

theorem makeStatement_named {named : NamedConnection}
    (found : s.connections.get? connection = some named) :
    makeStatement eng connection keepAs make s =
      let after := onShared named.id make s
      (after.1, match after.1 with
        | some (.ok (some st)) => (keep eng keepAs ⟨named.id, st⟩ after.2).2
        | _ => after.2) := by
  rw [makeStatement, get_bind]
  simp only [found, Engine.bind_apply]
  rcases onShared named.id make s with ⟨_ | (e | (_ | st)), s₁⟩ <;> rfl

/-- A connection makes a statement: that is recorded, and the statement is kept if there is one. -/
theorem makeStatement_records (eng : Engine σ) (keepAs : String)
    (made : Records s events (onConnection connection make s).2)
    (fresh : ∀ r st, (make r).1 = .ok (some st) → st.error = .success) :
    Records s
      (events ++ keptEvents keepAs ((makeStatement eng connection keepAs make s).1.bind fun reply =>
        reply.toOption.bind fun st? => st?))
      (makeStatement eng connection keepAs make s).2 := by
  rw [onConnection_apply] at made
  cases named? : s.connections.get? connection with
  | none =>
    simp only [named?] at made
    simp only [makeStatement_unnamed named?]
    exact made.trans (.refl s)
  | some named =>
    simp only [named?] at made
    rw [makeStatement_named named?]
    have handed {st : Statement} (result : (onShared named.id make s).1 = some (.ok (some st))) :
        st.error = .success := by
      cases found : s.live.get? named.id with
      | none =>
        rw [onShared_missing found] at result
        cases result
      | some c =>
        rw [onShared_found found] at result
        exact fresh _ st (Option.some_inj.mp result)
    rcases made? : onShared named.id make s with ⟨_ | (e | (_ | st)), s₁⟩
    all_goals simp only [made?] at made handed ⊢
    · exact made.trans (.refl s₁)
    · exact made.trans (.refl s₁)
    · exact made.trans (.refl s₁)
    · exact made.trans (keep_records (handed rfl) keepAs s₁)

end Making

/-- An operation that hands over no statement opens no slot. -/
theorem keptEvents_of_never {op : Connection.Operation} (never : ∀ reply, op.made? reply = none)
    (keepAs : String) (result : Option (Except Error op.Reply)) :
    keptEvents keepAs (handed? op result) = [] := by
  have nothing : handed? op result = none := by simp [handed?, never]
  rw [nothing, keptEvents]

theorem operate_records (connection : String) (op : Connection.Operation) (keepAs : String)
    (s : Session σ) :
    Records s ((Command.operate connection op keepAs).events eng s)
      ((Command.operate connection op keepAs).perform eng s).2 := by
  have performed := operation_records eng connection op s
  have fresh {r : Running σ} {reply : op.Reply} {st : Statement} :
      (op.perform eng r).1 = .ok reply → op.made? reply = some st → st.error = .success :=
    Connection.made_error
  have kept {make : StateM (Running σ) (Except Error (Option Statement))}
      (made : Records s (operationEvents eng connection op s) (onConnection connection make s).2) :=
    makeStatement_records eng keepAs made
  have plain (never : ∀ reply, op.made? reply = none) {s' : Session σ}
      (result : Option (Except Error op.Reply))
      (performed : Records s (operationEvents eng connection op s) s') :
      Records s (operationEvents eng connection op s ++ keptEvents keepAs (handed? op result)) s' := by
    rw [keptEvents_of_never never]
    exact performed.trans (.refl s')
  cases op with
  | exec sql => exact plain (fun _ => rfl) _ performed
  | query sql => exact kept performed fun r st handed => fresh handed rfl
  | queryMode sql mode => exact kept performed fun r st handed => fresh handed rfl
  | queryStyle objects sql style args => exact kept performed fun r st handed => fresh handed rfl
  | prepare sql => exact kept performed fun r st handed => fresh handed rfl
  | begin => exact plain (fun _ => rfl) _ performed
  | commit => exact plain (fun _ => rfl) _ performed
  | rollBack => exact plain (fun _ => rfl) _ performed

/-- A new connection opens a slot; one that it replaces may go away. -/
theorem connect_records (name dsn : String) (options : ConnectionOptions) (s : Session σ) :
    Records s ((Command.connect name dsn options).events eng s)
      ((Command.connect name dsn options).perform eng s).2 := by
  rw [Command.events, Command.perform, connect, get_bind]
  rcases connected : Connection.connect eng dsn options s.engine with ⟨e | ⟨c, params⟩, engine⟩
  · exact .of_kept fun _ _ same => same
  · let added : Session σ := { s with
      engine
      live := s.live.insert s.nextId c
      connections := s.connections.insert name ⟨s.nextId, params⟩
      nextId := s.nextId + 1 }
    have held := info?_insert_live s s.nextId c
    have fresh : c.state.lastError = .success :=
      Connection.connect_lastError (congrArg Prod.fst connected)
    have opened : Records s [.opened (.connection s.nextId)] added :=
      .of_opened ((held _).trans ((if_pos rfl).trans (congrArg some fresh)))
        fun slot other => (held slot).trans (if_neg other)
    cases s.connections.get? name with
    | none => exact opened
    | some old => exact opened.trans (release_kept old.id added)

theorem perform_records (eng : Engine σ) (command : Command) (s : Session σ) :
    Records s (command.events eng s) (command.perform eng s).2 := by
  cases command with
  | connect name dsn options => exact connect_records name dsn options s
  | disconnect name => exact disconnect_kept name s
  | free name => exact free_kept name s
  | operate connection op keepAs => exact operate_records connection op keepAs s
  | setAttribute connection attr v =>
    exact onConnection_kept _ (Connection.setAttribute_lastError attr v) connection s
  | getAttribute connection attr =>
    exact onConnection_kept _ (Connection.getAttribute_lastError attr) connection s
  | lastInsertId connection => exact onConnection_kept _ (fun _ => rfl) connection s
  | inTransaction connection => exact onConnection_kept _ (fun _ => rfl) connection s
  | errorInfo connection => exact onConnection_kept _ (fun _ => rfl) connection s
  | errorCode connection => exact onConnection_kept _ (fun _ => rfl) connection s
  | execute name params => exact execute_records name params s
  | fetch name mode => exact fetch_records name mode s
  | fetchAll name mode => exact fetchAll_records name mode s
  | fetchColumn name i => exact fetchColumn_records name i s
  | setFetchMode name style args => exact setFetchMode_records name style args s

theorem performAll_records (eng : Engine σ) (commands : List Command) (s : Session σ) :
    Records s (history eng commands s) (performAll eng commands s).2 := by
  induction commands generalizing s with
  | nil => exact .refl s
  | cons command rest ih => exact (perform_records eng command s).trans (ih _)

end Commands

end SqlBridge.Session
