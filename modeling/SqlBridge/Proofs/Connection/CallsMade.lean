import SqlBridge.Proofs.Connection.Origin
import SqlBridge.Proofs.Engine.CallsMade

/-! # The calls that a connection makes

Whatever an open connection is asked for, it calls the engine with its own handle
only, and only a caller's rollback rolls back. When it is closed it rolls back
once if a transaction is active, and then closes its handle. An attempt to connect
opens one handle, and closes it again if the attempt fails.
-/

namespace SqlBridge
variable {σ : Type}

def TransactionVerb.sql : TransactionVerb → String
  | begin => "BEGIN"
  | commit => "COMMIT"
  | rollBack => "ROLLBACK"

/-- The tracker asks for the verb, and after one that failed to end a transaction for its state. -/
theorem Transaction.track_only (eng : Engine σ) {h : Handle} {kind : Call → Prop}
    (v : TransactionVerb) (t : Transaction) (asked : kind (.execute h v.sql))
    (checked : kind (.autocommit h)) :
    MakesOnly kind (track (eng.logged.transactionVerbs h) v t) := by
  have ending (outcome : Except Error Unit) :
      MakesOnly kind (afterEnding (eng.logged.transactionVerbs h) outcome) := by
    cases outcome with
    | ok _ => exact .pure _
    | error e =>
      apply MakesOnly.bind (.bind (.call checked _) fun b => .pure _)
      intro opened
      cases opened <;> exact .pure _
  cases t with
  | idle =>
    cases v with
    | begin =>
      apply MakesOnly.bind (Engine.executeText_only eng asked)
      intro outcome
      cases outcome <;> exact .pure _
    | commit | rollBack => exact .pure _
  | active =>
    cases v with
    | begin => exact .pure _
    | commit | rollBack => exact .bind (Engine.executeText_only eng asked) ending

namespace Connection
variable (eng : Engine σ)

/-- What an open connection is asked for. -/
inductive Job where
  | operation (op : Operation)
  | execute (st : Statement) (params : List Value)
  | setAttribute (attr : Attribute) (v : AttributeValue)
  | getAttribute (attr : Attribute)
  | lastInsertId
  /-- A question about the state. -/
  | look

namespace Job

def effect : Job → Running σ → Running σ
  | operation op, r => (op.perform eng r).2
  | execute st params, r => (Connection.execute eng st params r).2
  | setAttribute attr v, r => (Connection.setAttribute attr v r).2
  | getAttribute attr, r => (Connection.getAttribute eng attr r).2
  | lastInsertId, r => (Connection.lastInsertId eng r).2
  | look, r => r

def ofRequest : Request → Job
  | .setAttribute attr v => setAttribute attr v
  | .exec sql => operation (.exec sql)
  | .begin => operation .begin
  | .commit => operation .commit
  | .rollBack => operation .rollBack
  | .inTransaction | .errorCode => look

def asksRollBack : Job → Bool
  | operation .rollBack => true
  | _ => false

theorem respond_effect (request : Request) (r : Running σ) :
    (respond eng request r).2 = (ofRequest request).effect eng r := by
  cases request <;> rfl

theorem effect_origin (job : Job) (r : Running σ) :
    (job.effect eng r).connection.origin = r.connection.origin := by
  cases job with
  | operation op => exact perform_keepsOrigin eng op r
  | execute st params => exact execute_keepsOrigin eng st params r
  | setAttribute attr v => exact setAttribute_keepsOrigin attr v r
  | getAttribute attr => exact getAttribute_keepsOrigin eng attr r
  | lastInsertId => rfl
  | look => rfl

end Job

/-- The call is one that a job makes: on the handle, and a rollback only if the job asks for it. -/
def Job.Allows (job : Job) (h : Handle) (call : Call) : Prop :=
  call.worksOn h = true ∧ (job.asksRollBack = false → call.rollsBack = false)

theorem attemptQuery_only (c : Connection) (mode : Option FetchMode) (sql : String) :
    MakesOnly (Call.IsWork c.handle) (Operation.attemptQuery eng.logged c mode sql) :=
  .bind (Engine.run_only eng c.handle sql []) fun _ => .pure _

theorem attempt_only (c : Connection) (op : Operation) :
    MakesOnly ((Job.operation op).Allows c.handle) (op.attempt eng.logged c) := by
  have routine {call : Call} (work : Call.IsWork c.handle call) :
      (Job.operation op).Allows c.handle call := ⟨work.1, fun _ => work.2⟩
  cases op with
  | exec sql =>
    exact (MakesOnly.bind (Engine.run_only eng c.handle sql []) fun _ => .pure _).mono fun _ => routine
  | query sql => exact (attemptQuery_only eng c none sql).mono fun _ => routine
  | queryMode sql mode => exact (attemptQuery_only eng c (some mode) sql).mono fun _ => routine
  | queryStyle objects sql style args =>
    rw [Operation.attempt]
    split
    · exact .pure _
    · split
      · exact .pure _
      · exact (attemptQuery_only eng c _ sql).mono fun _ => routine
  | prepare sql =>
    exact (MakesOnly.bind (Engine.compileAll_only eng c.handle sql) fun _ => .pure _).mono
      fun _ => routine
  | begin =>
    exact Transaction.track_only eng .begin _ (by simp [Job.Allows, Call.worksOn, Call.rollsBack,
      TransactionVerb.sql]) (by simp [Job.Allows, Call.worksOn, Call.rollsBack])
  | commit =>
    exact Transaction.track_only eng .commit _ (by simp [Job.Allows, Call.worksOn, Call.rollsBack,
      TransactionVerb.sql]) (by simp [Job.Allows, Call.worksOn, Call.rollsBack])
  | rollBack =>
    exact Transaction.track_only eng .rollBack _ (by simp [Job.Allows, Call.worksOn,
      Job.asksRollBack]) (by simp [Job.Allows, Call.worksOn, Job.asksRollBack])

theorem Job.effect_calls (job : Job) (r : Running (σ × List Call)) :
    ∃ calls, (job.effect eng.logged r).engine.2 = r.engine.2 ++ calls ∧
      ∀ call ∈ calls, job.Allows r.connection.handle call := by
  cases job with
  | operation op =>
    rw [effect, perform_eq]
    exact attempt_only eng r.connection op r.engine
  | execute st params =>
    rw [effect, execute_eq]
    exact ((Engine.run_only eng r.connection.handle st.sql params).mono
      fun _ work => ⟨work.1, fun _ => work.2⟩) r.engine
  | setAttribute attr v => exact ⟨[], (List.append_nil _).symm, by simp⟩
  | getAttribute attr =>
    have silent : ∃ calls, r.engine.2 = r.engine.2 ++ calls ∧
        ∀ call ∈ calls, (getAttribute attr).Allows r.connection.handle call :=
      ⟨[], (List.append_nil _).symm, by simp⟩
    have asked : ∃ calls, r.engine.2 ++ [Call.version] = r.engine.2 ++ calls ∧
        ∀ call ∈ calls, (getAttribute attr).Allows r.connection.handle call :=
      ⟨[.version], rfl, by simp [Allows, Call.worksOn, Call.rollsBack]⟩
    cases attr with
    | serverVersion | clientVersion => exact asked
    | _ => exact silent
  | lastInsertId =>
    exact ⟨[.lastRowId r.connection.handle], rfl, by simp [Allows, Call.worksOn, Call.rollsBack]⟩
  | look => exact ⟨[], (List.append_nil _).symm, by simp⟩

/-- The calls that close a connection, whose transaction may be active and may fail to roll back. -/
def closingCalls (h : Handle) (active failed : Bool) : List Call :=
  (if active then .execute h "ROLLBACK" :: (if failed then [.autocommit h] else []) else []) ++
    [.close h]

theorem executeText_eq (h : Handle) {sql : String} (fits : hasNul sql = false) (s : σ) :
    eng.executeText h sql s =
      ((eng.execute h sql s).1.mapError fun f => engineError f.code f.message sql,
        (eng.execute h sql s).2) := by
  rw [Engine.executeText, fits]
  simp only [Bool.false_eq_true, if_false, Engine.bind_apply]
  cases (eng.execute h sql s).1 <;> rfl

/-- A rollback of an active transaction is one call, and another one if it failed. -/
theorem rollBack_calls (h : Handle) (p : σ × List Call) :
    ∃ failed : Bool, (Transaction.active.rollBack (eng.logged.transactionVerbs h) p).2.2 =
      p.2 ++ .execute h "ROLLBACK" :: (if failed then [.autocommit h] else []) := by
  have ended : Transaction.active.rollBack (eng.logged.transactionVerbs h) p =
      Transaction.afterEnding (eng.logged.transactionVerbs h)
        (eng.logged.executeText h "ROLLBACK" p).1 (eng.logged.executeText h "ROLLBACK" p).2 :=
    Transaction.track_ending (v := .rollBack) (by decide) p
  have asked := executeText_eq eng.logged h (by decide : hasNul "ROLLBACK" = false) p
  rw [ended, asked]
  cases executed : (eng.logged.execute h "ROLLBACK" p).1 with
  | ok _ => exact ⟨false, rfl⟩
  | error f =>
    rw [show Except.mapError _ (.error f) = .error (engineError f.code f.message "ROLLBACK") from rfl,
      Transaction.afterEnding_error]
    exact ⟨true, List.append_assoc p.2 [.execute h "ROLLBACK"] [.autocommit h]⟩

/-- The engine rolls back if a transaction is active, and then closes the handle. -/
theorem close_engine (r : Running σ) :
    (close eng r).2.engine = (eng.close r.connection.handle
      (if r.connection.state.inTransaction then
        (r.connection.state.transaction.rollBack (eng.transactionVerbs r.connection.handle) r.engine).2
      else r.engine)).2 := by
  simp only [close, Engine.bind_apply]
  change (ite (r.connection.state.inTransaction = true) (_ : StateM (Running σ) _) _ r).2.engine = _
  by_cases active : r.connection.state.inTransaction = true
  · simp only [if_pos active, Engine.bind_apply]
    generalize (Running.onEngine (Transaction.rollBack _ _) _).1.1 = outcome
    cases outcome <;> rfl
  · simp only [if_neg active]
    rfl

theorem close_calls (r : Running (σ × List Call)) :
    ∃ failed, (close eng.logged r).2.engine.2 = r.engine.2 ++
      closingCalls r.connection.handle r.connection.state.inTransaction failed := by
  rw [close_engine]
  cases opened : r.connection.state.transaction with
  | idle =>
    have idle : r.connection.state.inTransaction = false := by
      rw [Connection.State.inTransaction, opened]
      rfl
    rw [idle]
    exact ⟨false, rfl⟩
  | active =>
    have active : r.connection.state.inTransaction = true := by
      rw [Connection.State.inTransaction, opened]
      rfl
    obtain ⟨failed, rolled⟩ := rollBack_calls eng r.connection.handle r.engine
    refine ⟨failed, ?_⟩
    rw [active, if_pos rfl]
    change _ ++ _ = _
    rw [rolled, List.append_assoc]
    rfl

/-- The calls of an attempt to connect, and the handle that it leaves open. -/
inductive Attempt : List Call → Option Handle → Prop where
  | unsent : Attempt [] none
  | unopened (path : String) (flags : Nat) : Attempt [.connect path flags] none
  | closed (path : String) (flags : Nat) {h : Handle} {setup : List Call}
      (work : ∀ call ∈ setup, Call.IsWork h call) :
      Attempt (.connect path flags :: setup ++ [.close h]) none
  | opened (path : String) (flags : Nat) {h : Handle} {setup : List Call}
      (work : ∀ call ∈ setup, Call.IsWork h call) : Attempt (.connect path flags :: setup) (some h)

theorem Attempt.of_opened {calls : List Call} {h : Handle} (attempt : Attempt calls (some h)) :
    ∃ path flags setup, calls = .connect path flags :: setup ∧ ∀ call ∈ setup, Call.IsWork h call := by
  cases attempt with
  | opened path flags work => exact ⟨path, flags, _, rfl, work⟩

theorem registerText_only (h : Handle) (name value : String) :
    MakesOnly (Call.IsWork h) (eng.logged.registerText h name value) := by
  rw [Engine.registerText]
  split
  · exact .pure _
  · split
    · exact .pure _
    · apply MakesOnly.bind (.work (by simp [Call.worksOn]) _)
      intro defined
      cases defined with
      | ok _ => exact .pure _
      | error code => exact .bind (.work (by simp [Call.worksOn]) _) fun _ => .pure _

theorem openStorage_calls (st : Storage) (p : σ × List Call) :
    ∃ calls, (eng.logged.openStorage st p).2.2 = p.2 ++ calls ∧
      Attempt calls (eng.logged.openStorage st p).1.toOption := by
  rw [Engine.openStorage]
  split
  · exact ⟨[], (List.append_nil _).symm, .unsent⟩
  · simp only [Engine.bind_apply]
    cases connected : (eng.logged.connect st.path st.flagWord p).1 with
    | error f => exact ⟨[.connect st.path st.flagWord], rfl, .unopened _ _⟩
    | ok h =>
      by_cases waits : 0 < st.busyTimeout
      · simp only [if_pos waits]
        refine ⟨[.connect st.path st.flagWord, .setBusyTimeout h (min st.busyTimeout 2147483647)],
          List.append_assoc p.2 [_] [_], .opened _ _ ?_⟩
        simp [Call.IsWork, Call.worksOn, Call.rollsBack]
      · simp only [if_neg waits]
        exact ⟨[.connect st.path st.flagWord], rfl, .opened _ _ (by simp)⟩

theorem connect_calls (dsn : String) (options : ConnectionOptions) (p : σ × List Call) :
    ∃ calls, (connect eng.logged dsn options p).2.2 = p.2 ++ calls ∧
      Attempt calls ((connect eng.logged dsn options p).1.toOption.map fun made => made.1.handle) := by
  rw [connect]
  cases requirements dsn with
  | error e => exact ⟨[], (List.append_nil _).symm, .unsent⟩
  | ok needed =>
    obtain ⟨params, path, dbname⟩ := needed
    obtain ⟨calls, made, attempt⟩ := openStorage_calls eng (storage options path) p
    simp only [Engine.bind_apply]
    rcases opened : eng.logged.openStorage (storage options path) p with ⟨e | h, p₁⟩
    all_goals rw [opened] at made attempt
    · exact ⟨calls, made, attempt⟩
    · obtain ⟨file, flags, setup, rfl, work⟩ := Attempt.of_opened attempt
      obtain ⟨more, made', work'⟩ := registerText_only eng h databaseFunction dbname p₁
      have both := List.forall_mem_append.mpr ⟨work, work'⟩
      simp only [Engine.bind_apply]
      rcases registered : eng.logged.registerText h databaseFunction dbname p₁ with ⟨e | _, p₂⟩
      all_goals rw [registered, made] at made'
      · refine ⟨_, ?_, .closed file flags both⟩
        change p₂.2 ++ [.close h] = _
        rw [made']
        simp
      · refine ⟨_, ?_, .opened file flags both⟩
        change p₂.2 = _
        rw [made']
        simp

end Connection
end SqlBridge
