import SqlBridge.Proofs.Connection.LastError
import SqlBridge.Proofs.Session.Events
import SqlBridge.Proofs.Session.Fetch

/-! # Accounts of the slots

A list of events accounts for a change of a session if every slot that is left
holds what its latest event says, or what it held before. Accounts of
consecutive changes are appended. Here are those of work on a connection:
operations account for their outcomes, callbacks for the requests that they
make, and everything else for nothing.
-/

namespace SqlBridge.Session
variable {σ α : Type} {eng : Engine σ} {s s' s'' : Session σ} {events events' : List Event}

def info? (s : Session σ) : Slot → Option LastError
  | .connection id => (s.live.get? id).map fun c => c.state.lastError
  | .statement name => (s.statements.get? name).map fun st => st.statement.error

/-- The events account for the slots: a slot that is there afterwards holds what its latest event
says, or what it held before. And the SQLSTATE tells which of the events are failures. -/
structure Records (s : Session σ) (events : List Event) (s' : Session σ) : Prop where
  info : ∀ slot last, s'.info? slot = some last →
    ((latest? slot events).map Event.info).or (s.info? slot) = some last
  told : ∀ e ∈ events, e.info.isSuccess = !e.isFailure

theorem latest?_eq_none {slot : Slot} (others : ∀ e ∈ events, e.slot ≠ slot) :
    latest? slot events = none := by
  rw [latest?, List.find?_eq_none]
  intro e mem
  simpa using others e (List.mem_reverse.mp mem)

namespace Records

/-- Nothing is reported, and the slots that are left hold what they held. -/
theorem of_kept (kept : ∀ slot last, s'.info? slot = some last → s.info? slot = some last) :
    Records s [] s' :=
  ⟨kept, by simp⟩

theorem refl (s : Session σ) : Records s [] s := of_kept fun _ _ same => same

theorem trans (first : Records s events s') (second : Records s' events' s'') :
    Records s (events ++ events') s'' where
  info slot last known := by
    rw [latest?_append]
    have later := second.info slot last known
    cases found : latest? slot events' with
    | some e =>
      rw [found] at later
      exact later
    | none =>
      rw [found] at later
      exact first.info slot last later
  told e mem := (List.mem_append.mp mem).elim (first.told e) (second.told e)

/-- All events are those of one slot, which holds what they say, and the other slots are as before. -/
theorem of_slot {slot : Slot} (own : ∀ e ∈ events, e.slot = slot)
    (told : ∀ e ∈ events, e.info.isSuccess = !e.isFailure)
    (here : s'.info? slot = ((latest? slot events).map Event.info).or (s.info? slot))
    (others : ∀ slot', slot ≠ slot' → s'.info? slot' = s.info? slot') : Records s events s' := by
  refine ⟨fun slot' last known => ?_, told⟩
  by_cases same : slot = slot'
  · rw [← same, ← here, same]
    exact known
  · rw [latest?_eq_none fun e mem own' => same ((own e mem).symm.trans own'), ← others slot' same]
    exact known

theorem of_opened {slot : Slot} (here : s'.info? slot = some .success)
    (others : ∀ slot', slot ≠ slot' → s'.info? slot' = s.info? slot') :
    Records s [.opened slot] s' :=
  of_slot (by simp [Event.slot]) (fun e mem => by rw [List.mem_singleton.mp mem]; rfl)
    (by simp [here, latest?, Event.slot, Event.info]) others

end Records

theorem info?_insert_live (s : Session σ) (id : ConnectionId) (c : Connection) (slot : Slot) :
    ({ s with live := s.live.insert id c } : Session σ).info? slot =
      if .connection id = slot then some c.state.lastError else s.info? slot := by
  cases slot with
  | statement name => rfl
  | connection id' =>
    simp only [info?, OrderedMap.get?_insert, Slot.connection.injEq]
    split <;> rfl

theorem info?_insert_statements (s : Session σ) (name : String) (st : OwnedStatement) (slot : Slot) :
    ({ s with statements := s.statements.insert name st } : Session σ).info? slot =
      if .statement name = slot then some st.statement.error else s.info? slot := by
  cases slot with
  | connection id => rfl
  | statement name' =>
    simp only [info?, OrderedMap.get?_insert, Slot.statement.injEq]
    split <;> rfl

section Reported
variable {slot : Slot} {outcome : Except Error α}

theorem slot_of_reported {e : Event} (mem : e ∈ reported slot outcome) : e.slot = slot := by
  cases outcome with
  | ok a =>
    rw [List.mem_singleton.mp mem]
    rfl
  | error raised =>
    rw [reported] at mem
    split at mem
    · rw [List.mem_singleton.mp mem]
      rfl
    · cases mem

/-- What is reported is what a report records. -/
theorem latest?_reported (mode : ErrorMode) (method : Method) (last : LastError) :
    ((latest? slot (reported slot outcome)).map Event.info).getD last =
      (mode.report method last outcome).last := by
  cases outcome with
  | ok a => simp [latest?, reported, Event.slot, Event.info, ErrorMode.report]
  | error e =>
    simp only [reported, ErrorMode.report]
    cases e.isFromEngine with
    | false => rfl
    | true => cases mode <;> simp [latest?, Event.slot, Event.info]

theorem told_of_reported
    (failure : ∀ e, outcome = .error e → e.isFromEngine = true →
      (LastError.ofError e).sqlstate ≠ LastError.successState)
    {e : Event} (mem : e ∈ reported slot outcome) : e.info.isSuccess = !e.isFailure := by
  cases outcome with
  | ok a =>
    rw [List.mem_singleton.mp mem]
    rfl
  | error raised =>
    rw [reported] at mem
    split at mem
    next engine =>
      rw [List.mem_singleton.mp mem]
      simpa [Event.info, Event.isFailure, LastError.isSuccess] using failure raised rfl engine
    next => cases mem

end Reported

section Connections
variable {id : ConnectionId} {c : Connection} {connection : String}

theorem onShared_records (found : s.live.get? id = some c) (act : StateM (Running σ) α)
    (own : ∀ e ∈ events, e.slot = .connection id) (told : ∀ e ∈ events, e.info.isSuccess = !e.isFailure)
    (last : (act ⟨s.engine, c, s.warnings⟩).2.connection.state.lastError =
      ((latest? (.connection id) events).map Event.info).getD c.state.lastError) :
    Records s events (onShared id act s).2 := by
  rw [onShared_found found]
  have held := info?_insert_live s id (act ⟨s.engine, c, s.warnings⟩).2.connection
  refine .of_slot own told ?_ fun slot other => (held slot).trans (if_neg other)
  rw [show s.info? (.connection id) = some c.state.lastError by simp [info?, found], Option.or_some,
    ← last]
  exact (held _).trans (if_pos rfl)

theorem onShared_kept (act : StateM (Running σ) α)
    (kept : ∀ r, (act r).2.connection.state.lastError = r.connection.state.lastError)
    (id : ConnectionId) (s : Session σ) : Records s [] (onShared id act s).2 := by
  cases found : s.live.get? id with
  | none =>
    rw [onShared_missing found]
    exact .refl s
  | some c => exact onShared_records found act (by simp) (by simp) (kept _)

theorem onConnection_kept (act : StateM (Running σ) α)
    (kept : ∀ r, (act r).2.connection.state.lastError = r.connection.state.lastError)
    (connection : String) (s : Session σ) : Records s [] (onConnection connection act s).2 := by
  rw [onConnection_apply]
  cases s.connections.get? connection with
  | none => exact .refl s
  | some named => exact onShared_kept act kept named.id s

theorem operation_records (eng : Engine σ) (connection : String) (op : Connection.Operation)
    (s : Session σ) :
    Records s (operationEvents eng connection op s)
      (onConnection connection (op.perform eng) s).2 := by
  rw [onConnection_apply, operationEvents, atWork?]
  cases s.connections.get? connection with
  | none => exact .refl s
  | some named =>
    cases found : s.live.get? named.id with
    | none =>
      simp only [onShared_missing found, found, Option.bind_eq_bind, Option.bind_some,
        Option.bind_none]
      exact .refl s
    | some c =>
      simp only [found, Option.bind_eq_bind, Option.bind_some]
      refine onShared_records found _ (fun e mem => slot_of_reported mem)
        (fun e mem => told_of_reported (fun e => Connection.Operation.outcome_error) mem) ?_
      exact (Connection.perform_lastError op _).trans (latest?_reported _ _ _).symm

end Connections

section Callbacks

/-- A request works on its connection as the operation that it asks for. -/
theorem respond_operation {r : Request} {op : Connection.Operation} (asked : operation? r = some op)
    (run : Running σ) : (Connection.respond eng r run).2 = (op.perform eng run).2 := by
  cases r <;> cases asked <;> rfl

theorem respond_kept {r : Request} (asked : operation? r = none) (run : Running σ) :
    (Connection.respond eng r run).2.connection.state.lastError =
      run.connection.state.lastError := by
  cases r with
  | setAttribute attr v => exact Connection.setAttribute_lastError attr v run
  | inTransaction => rfl
  | errorCode => rfl
  | exec sql => cases asked
  | begin => cases asked
  | commit => cases asked
  | rollBack => cases asked

theorem onConnection_congr {β : Type} {act : StateM (Running σ) α} {act' : StateM (Running σ) β}
    (same : ∀ r, (act r).2 = (act' r).2) (connection : String) (s : Session σ) :
    (onConnection connection act s).2 = (onConnection connection act' s).2 := by
  rw [onConnection_apply, onConnection_apply]
  cases s.connections.get? connection with
  | none => rfl
  | some named =>
    cases found : s.live.get? named.id with
    | none => simp only [onShared_missing found]
    | some c => simp only [onShared_found found, same]

theorem request_records (connection : String) (r : Request) (s : Session σ) :
    Records s (requestEvents eng connection r s) (respond eng connection r s).2 := by
  change Records s _ (onConnection connection (Connection.respond eng r) s).2
  rw [requestEvents]
  cases asked : operation? r with
  | none => exact onConnection_kept _ (respond_kept asked) connection s
  | some op =>
    rw [onConnection_congr (respond_operation asked)]
    exact operation_records eng connection op s

theorem callout_records (work : Callout α) (s : Session σ) :
    Records s (calloutEvents eng work s) (work.run (respond eng) s).2 := by
  induction work generalizing s with
  | done a => exact .refl s
  | ask connection r next ih => exact (request_records connection r s).trans (ih _ _)

end Callbacks

end SqlBridge.Session
