import SqlBridge.Engine.Recording
import SqlBridge.Proofs.Session.CommandRecords

/-! # What the last error means

The last error of a connection or of a statement is the latest outcome that was
reported to it, over whole runs of a session. Refused operations report nothing,
and only few commands report to a slot at all.
-/

namespace SqlBridge.Session
variable {σ α : Type} {eng : Engine σ} {s : Session σ} {events : List Event}

section Slots
variable {e : Event}

theorem connection_of_operationEvents {connection : String} {op : Connection.Operation}
    (mem : e ∈ operationEvents eng connection op s) : ∃ id, e.slot = .connection id := by
  rw [operationEvents] at mem
  split at mem
  · cases mem
  · exact ⟨_, slot_of_reported mem⟩

theorem connection_of_calloutEvents {work : Callout α} (mem : e ∈ calloutEvents eng work s) :
    ∃ id, e.slot = .connection id := by
  induction work generalizing s with
  | done a => cases mem
  | ask connection r next ih =>
    rcases List.mem_append.mp mem with mem | mem
    · rw [requestEvents] at mem
      split at mem
      · cases mem
      · exact connection_of_operationEvents mem
    · exact ih _ mem

theorem connection_of_fetchEvents {name : String} {mode : Option FetchMode}
    (mem : e ∈ fetchEvents eng name mode s) : ∃ id, e.slot = .connection id := by
  rw [fetchEvents] at mem
  split at mem
  · cases mem
  · exact connection_of_calloutEvents mem

theorem connection_of_fetchUpToEvents {name : String} {mode : Option FetchMode} {n : Nat}
    (mem : e ∈ fetchUpToEvents eng name mode n s) : ∃ id, e.slot = .connection id := by
  induction n generalizing s with
  | zero => cases mem
  | succ n ih =>
    rcases List.mem_append.mp mem with mem | mem
    · exact connection_of_fetchEvents mem
    · split at mem
      · exact ih mem
      · cases mem

/-- A statement's slot has events only by its own runs and by being opened. -/
theorem statement_event {command : Command} {name : String} (mem : e ∈ command.events eng s)
    (own : e.slot = .statement name) :
    (∃ params, command = .execute name params) ∨
      ∃ connection op, command = .operate connection op name ∧ e.info = .success := by
  have elsewhere (connection : ∃ id, e.slot = .connection id) : False := by
    obtain ⟨id, same⟩ := connection
    cases same.symm.trans own
  cases command with
  | connect name' dsn options =>
    rw [Command.events] at mem
    split at mem
    · rw [List.mem_singleton.mp mem] at own
      cases own
    · cases mem
  | operate connection op keepAs =>
    rcases List.mem_append.mp mem with mem | mem
    · exact (elsewhere (connection_of_operationEvents mem)).elim
    · rw [keptEvents.eq_def] at mem
      split at mem
      · obtain rfl := List.mem_singleton.mp mem
        cases own
        exact .inr ⟨connection, op, rfl, rfl⟩
      · cases mem
  | execute name' params =>
    rw [Command.events, executeEvents] at mem
    split at mem
    · cases mem
    · split at mem
      · cases mem
      · cases (slot_of_reported mem).symm.trans own
        exact .inl ⟨params, rfl⟩
  | fetch name' mode => exact (elsewhere (connection_of_fetchEvents mem)).elim
  | fetchAll name' mode =>
    rw [Command.events, fetchAllEvents] at mem
    split at mem
    · cases mem
    · exact (elsewhere (connection_of_fetchUpToEvents mem)).elim
  | _ => cases mem

/-- The slot of a connection has events only by commands that may report to it. -/
theorem connection_event {command : Command} {id : ConnectionId} (mem : e ∈ command.events eng s)
    (own : e.slot = .connection id) : command.mayReport = true := by
  cases command with
  | connect _ _ _ => rfl
  | operate _ _ _ => rfl
  | fetch _ _ => rfl
  | fetchAll _ _ => rfl
  | execute name params =>
    rw [Command.events, executeEvents] at mem
    split at mem
    · cases mem
    · split at mem
      · cases mem
      · cases (slot_of_reported mem).symm.trans own
  | _ => cases mem

theorem mem_of_latest? {slot : Slot} (found : latest? slot events = some e) :
    e ∈ events ∧ e.slot = slot := by
  rw [latest?] at found
  exact ⟨List.mem_reverse.mp (List.mem_of_find?_eq_some found), by simpa using List.find?_some found⟩

end Slots

section Refused
variable {connection keepAs : String} {op : Connection.Operation}

theorem makeStatement_reply (make : StateM (Running σ) (Except Error (Option Statement))) :
    (makeStatement eng connection keepAs make s).1 = (onConnection connection make s).1 := by
  rw [onConnection_apply]
  cases named? : s.connections.get? connection with
  | none => rw [makeStatement_unnamed named?]
  | some named => rw [makeStatement_named named?]

theorem performOperation_reply :
    (Command.performOperation eng connection keepAs op s).1 =
      (onConnection connection (op.perform eng) s).1 := by
  cases op with
  | query sql => exact makeStatement_reply _
  | queryMode sql mode => exact makeStatement_reply _
  | queryStyle objects sql style args => exact makeStatement_reply _
  | prepare sql => exact makeStatement_reply _
  | exec sql => rfl
  | begin => rfl
  | commit => rfl
  | rollBack => rfl

theorem perform_of_reply {reply : Except Error op.Reply}
    (replied : (Command.performOperation eng connection keepAs op s).1 = some reply) :
    ∃ id c, s.atWork? connection = some (id, c) ∧
      (op.perform eng ⟨s.engine, c, s.warnings⟩).1 = reply := by
  rw [performOperation_reply] at replied
  obtain ⟨id, c, there⟩ := atWork?_of_reply replied
  rw [onConnection_reply there, Option.some_inj] at replied
  exact ⟨id, c, there, replied⟩

theorem operate_refused {e : Error}
    (replied : ((Command.operate connection op keepAs).perform eng s).1 = some (.error e))
    (refused : e.isFromEngine = false) :
    (Command.operate connection op keepAs).events eng s = [] := by
  change (Command.performOperation eng connection keepAs op s).1 = _ at replied
  rw [Command.events, replied]
  rw [performOperation_reply, onConnection_apply] at replied
  rw [operationEvents, atWork?]
  have kept : keptEvents keepAs (handed? op (some (.error e))) = [] := rfl
  rw [kept, List.append_nil]
  cases named? : s.connections.get? connection with
  | none => rfl
  | some named =>
    cases found : s.live.get? named.id with
    | none => simp [found]
    | some c =>
      simp only [named?, onShared_found found] at replied
      have outcome : op.outcome eng c s.engine = .error e :=
        Connection.outcome_of_error (Option.some_inj.mp replied)
      simp [found, outcome, reported, refused]

end Refused

section Infos
variable {command : Command} {last : LastError}

theorem info_of_run {engine : σ} {commands : List Command} {slot : Slot}
    (known : (performAll eng commands (start engine)).2.info? slot = some last) :
    ∃ e, latest? slot (history eng commands (start engine)) = some e ∧ last = e.info ∧
      (last.sqlstate = LastError.successState ↔ e.isFailure = false) := by
  have run := performAll_records eng commands (start engine)
  have latest := run.info slot last known
  have nothing : (start engine).info? slot = none := by cases slot <;> rfl
  rw [nothing, Option.or_none] at latest
  obtain ⟨e, found, rfl⟩ := Option.map_eq_some_iff.mp latest
  have told := run.told e (mem_of_latest? found).1
  refine ⟨e, found, rfl, ?_⟩
  rw [LastError.isSuccess] at told
  cases failure : e.isFailure <;> simpa [failure] using told

/-- Commands that may not report to connections leave what these hold. -/
theorem info_of_silent (silent : command.mayReport = false) {id : ConnectionId}
    (known : (command.perform eng s).2.info? (.connection id) = some last) :
    s.info? (.connection id) = some last := by
  have latest := (perform_records eng command s).info _ _ known
  rw [latest?_eq_none fun e mem own => absurd (connection_event mem own) (by simp [silent])]
    at latest
  exact latest

/-- What a statement holds is changed by its own runs, unless its name is given away. -/
theorem info_of_statement {name : String} {last' : LastError}
    (before : s.info? (.statement name) = some last)
    (known : (command.perform eng s).2.info? (.statement name) = some last') :
    last' = last ∨ (∃ params, command = .execute name params) ∨
      ∃ connection op, command = .operate connection op name ∧ last' = .success := by
  have latest := (perform_records eng command s).info _ _ known
  rw [before] at latest
  cases found : latest? (.statement name) (command.events eng s) with
  | none =>
    rw [found] at latest
    exact .inl (Option.some_inj.mp latest).symm
  | some e =>
    rw [found] at latest
    obtain rfl := Option.some_inj.mp latest
    obtain ⟨mem, own⟩ := mem_of_latest? found
    exact .inr (statement_event mem own)

end Infos

/-- In a run of commands from a session without connections, the last error of every connection and
of every statement is what the latest event of its slot says: a success if the latest outcome that
was reported to it succeeded or if there was none, and else the error. The SQLSTATE tells which.
An operation that is refused changes no last error at all. Commands that neither run an operation
nor call back change that of no connection. That of a statement is changed by its own runs only,
unless its name is given to a new statement. -/
theorem lastError_latest (eng : Engine σ) (engine : σ) (commands : List Command) :
    let s := (performAll eng commands (start engine)).2
    (∀ slot last, s.info? slot = some last →
      ∃ e, latest? slot (history eng commands (start engine)) = some e ∧ last = e.info ∧
        (last.sqlstate = LastError.successState ↔ e.isFailure = false)) ∧
    (∀ connection op keepAs e,
      ((Command.operate connection op keepAs).perform eng s).1 = some (.error e) →
      e.isFromEngine = false → ∀ slot last,
        ((Command.operate connection op keepAs).perform eng s).2.info? slot = some last →
        s.info? slot = some last) ∧
    (∀ command : Command, command.mayReport = false → ∀ id last,
      (command.perform eng s).2.info? (.connection id) = some last →
      s.info? (.connection id) = some last) ∧
    ∀ (command : Command) name last last', s.info? (.statement name) = some last →
      (command.perform eng s).2.info? (.statement name) = some last' →
      last' = last ∨ (∃ params, command = .execute name params) ∨
        ∃ connection op, command = .operate connection op name ∧ last' = .success := by
  intro s
  refine ⟨fun slot last => info_of_run, fun connection op keepAs e replied refused slot last known =>
    ?_, fun command silent id last => info_of_silent silent, fun command name last last' =>
    info_of_statement⟩
  have step := perform_records eng (.operate connection op keepAs) s
  rw [operate_refused replied refused] at step
  exact step.info slot last known

/-- A failed text is remembered through a commit that is refused. -/
theorem lastError_latest_refused :
    let options : ConnectionOptions := { ConnectionOptions.standard with errorMode := some .silent }
    let commands : List Command :=
      [.connect "c" "mysql-on-sqlite:path=p;dbname=d" options, .operate "c" (.exec "x") "",
        .operate "c" .commit ""]
    let engine := Recording.ofEvents [.done, .done, .failed ⟨19, "UNIQUE constraint failed"⟩]
    let s := (performAll Recording.engine commands (start engine)).2
    let history := history Recording.engine commands (start engine)
    s.info? (.connection 0) = some ⟨"23000", some 19, some "UNIQUE constraint failed"⟩ ∧
      ∃ e, latest? (.connection 0) history = some e ∧ e.isFailure = true := by
  intro options commands engine s history
  have known : s.info? (.connection 0) =
      some ⟨"23000", some 19, some "UNIQUE constraint failed"⟩ := by decide +kernel
  obtain ⟨e, found, -, told⟩ :=
    (lastError_latest Recording.engine engine commands).1 (.connection 0) _ known
  refine ⟨known, e, found, ?_⟩
  cases failure : e.isFailure with
  | true => rfl
  | false => exact absurd (told.mpr failure) (by decide)

end SqlBridge.Session
