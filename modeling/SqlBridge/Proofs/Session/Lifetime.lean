import SqlBridge.Engine.Recording
import SqlBridge.Proofs.Session.CommandRecords
import SqlBridge.Proofs.Session.Course
import SqlBridge.Proofs.Session.Reading

/-! # The lifetime of shared connections

Every command leaves the session settled: what is live has an owner, and the
connection that lost its last owner was released on the way. So a run of commands
has a course, in which every connection is released once, when nothing refers to
it any more.
-/

namespace SqlBridge.Session
open Connection
variable {σ α : Type} {eng : Engine σ} {engine : σ} {deeds : List Deed}
  {gone : Option ConnectionId} {s s' : Session (σ × List Call)} {id : ConnectionId}

/-- The session has come by these deeds and some more, and is settled but for one connection. -/
def Extends (eng : Engine σ) (engine : σ) (deeds : List Deed) (gone : Option ConnectionId)
    (s : Session (σ × List Call)) : Prop :=
  SettledBut gone s ∧ ∃ more, Course eng engine (deeds ++ more) s

namespace Extends

theorem turn (before : Extends eng engine deeds gone s) (o : Owner) {next : Option ConnectionId}
    (turned : s'.shared? = Function.update s.shared? o next)
    (same : s'.engine = s.engine ∧ s'.live = s.live ∧ s'.nextId = s.nextId)
    (takes : ∀ id, gone = some id → next = some id)
    (there : ∀ id, next = some id → (s.live.get? id).isSome) :
    Extends eng engine deeds (s.shared? o) s' := by
  obtain ⟨settled, more, course⟩ := before
  have settled' := settled.turn o same.2.1 turned takes there
  exact ⟨settled', more, course.turn same fun id owned => same.2.1 ▸ settled'.standing id owned⟩

theorem work (before : Extends eng engine deeds gone s) {c : Connection}
    (there : s.live.get? id = some c) (job : Job) :
    Extends eng engine deeds gone (s.after id (job.effect eng.logged ⟨s.engine, c, s.warnings⟩)) := by
  obtain ⟨settled, more, course⟩ := before
  obtain ⟨calls, made, allowed⟩ := job.effect_calls eng ⟨s.engine, c, s.warnings⟩
  refine ⟨settled.of_same (fun id' => ?_) rfl, more ++ [.worked id c.handle job calls], ?_⟩
  · by_cases here : id = id'
    · simp [after, OrderedMap.get?_insert, ← here, there]
    · simp [after, OrderedMap.get?_insert, here]
  · rw [← List.append_assoc]
    exact course.worked there job made allowed

theorem onShared (before : Extends eng engine deeds gone s) (job : Job)
    {act : StateM (Running (σ × List Call)) α} (same : ∀ r, (act r).2 = job.effect eng.logged r)
    (id : ConnectionId) : Extends eng engine deeds gone (Session.onShared id act s).2 := by
  cases found : s.live.get? id with
  | none =>
    rw [onShared_missing found]
    exact before
  | some c =>
    rw [onShared_found found]
    simp only [same]
    exact before.work found job

theorem onConnection (before : Extends eng engine deeds gone s) (job : Job)
    {act : StateM (Running (σ × List Call)) α} (same : ∀ r, (act r).2 = job.effect eng.logged r)
    (name : String) : Extends eng engine deeds gone (Session.onConnection name act s).2 := by
  rw [onConnection_apply]
  cases s.connections.get? name with
  | none => exact before
  | some named => exact before.onShared job same named.id

theorem run (before : Extends eng engine deeds gone s) (work : Callout α) :
    Extends eng engine deeds gone (work.run (respond eng.logged) s).2 :=
  work.run_preserves (fun connection request _ before =>
    before.onConnection (.ofRequest request) (Job.respond_effect eng.logged request) connection)
    before

/-- A connection that may have lost its last owner is released, unless it still has one. -/
theorem release (before : Extends eng engine deeds (some id) s) :
    Extends eng engine deeds none (Session.release eng.logged id s).2 := by
  obtain ⟨settled, more, course⟩ := before
  rw [Session.release, get_bind]
  cases owned : s.isOwned id with
  | true =>
    refine ⟨settled.settled fun id' given => ?_, more, course⟩
    rwa [← Option.some_inj.mp given]
  | false =>
    have settled' := settled.erase owned
    cases found : s.live.get? id with
    | none =>
      rw [OrderedMap.erase_of_get? found] at settled'
      change Extends eng engine deeds none
        { (Session.onShared id (close eng.logged) s).2 with
          live := (Session.onShared id (close eng.logged) s).2.live.erase id }
      rw [onShared_missing found, OrderedMap.erase_of_get? found]
      exact ⟨settled', more, course⟩
    | some c =>
      obtain ⟨refused, made⟩ := close_calls eng ⟨s.engine, c, s.warnings⟩
      change Extends eng engine deeds none
        { (Session.onShared id (close eng.logged) s).2 with
          live := (Session.onShared id (close eng.logged) s).2.live.erase id }
      rw [onShared_found found]
      simp only [OrderedMap.erase_insert]
      refine ⟨settled'.of_same (fun _ => rfl) rfl,
        more ++ [.released id c.handle c.state.inTransaction refused], ?_⟩
      rw [← List.append_assoc]
      exact course.released found owned made

/-- A statement is put back, which goes on to refer to its connection. -/
theorem put (before : Extends eng engine deeds none s) {name : String} {st st' : OwnedStatement}
    (there : s.statements.get? name = some st) (same : st'.owner = st.owner) (objects : ObjectStore) :
    Extends eng engine deeds none { s with
      objects, statements := s.statements.insert name st' } := by
  have shared : s.shared? (.statement name) = some st'.owner := by simp [shared?, there, same]
  have live := before.1.standing st'.owner (isOwned_iff.mpr ⟨_, shared⟩)
  let put : Session (σ × List Call) := { s with objects, statements := s.statements.insert name st' }
  have written : put.shared? = Function.update s.shared? (.statement name) (some st'.owner) :=
    shared?_statements (OrderedMap.get?_insert s.statements name · st')
  have turned := before.turn (.statement name) written ⟨rfl, rfl, rfl⟩ (by simp) (by simpa using live)
  refine ⟨turned.1.settled fun id given => ?_, turned.2⟩
  rw [shared] at given
  exact isOwned_iff.mpr ⟨.statement name, by rw [written, Function.update_self, given]⟩

theorem connect (before : Extends eng engine deeds none s) (name dsn : String)
    (options : ConnectionOptions) :
    Extends eng engine deeds none (Session.connect eng.logged name dsn options s).2 := by
  obtain ⟨settled, more, course⟩ := before
  obtain ⟨calls, made, attempt⟩ := connect_calls eng dsn options s.engine
  rw [Session.connect, get_bind]
  rcases connected : Connection.connect eng.logged dsn options s.engine with ⟨e | ⟨c, params⟩, p⟩
  all_goals rw [connected] at made attempt
  · refine ⟨settled.of_same (fun _ => rfl) rfl, more ++ [.failed calls], ?_⟩
    rw [← List.append_assoc]
    exact course.failed connected made attempt
  · let opened : Session (σ × List Call) :=
      { s with engine := p, live := s.live.insert s.nextId c, nextId := s.nextId + 1 }
    let named : Session (σ × List Call) :=
      { opened with connections := s.connections.insert name ⟨s.nextId, params⟩ }
    have extends_ : Extends eng engine deeds (some s.nextId) opened := by
      refine ⟨.of_opened settled rfl rfl, more ++ [.opened s.nextId c.handle calls], ?_⟩
      rw [← List.append_assoc]
      exact course.opened connected made attempt
    have turned : Extends eng engine deeds (s.shared? (.handle name)) named :=
      extends_.turn (.handle name)
        (shared?_connections (OrderedMap.get?_insert s.connections name · _)) ⟨rfl, rfl, rfl⟩
        (by simp) (by simp [opened, OrderedMap.get?_insert])
    cases known : s.connections.get? name with
    | none =>
      have shared : s.shared? (.handle name) = none := by simp [shared?, known]
      rw [shared] at turned
      exact turned
    | some old =>
      have shared : s.shared? (.handle name) = some old.id := by simp [shared?, known]
      rw [shared] at turned
      exact turned.release

theorem disconnect (before : Extends eng engine deeds none s) (name : String) :
    Extends eng engine deeds none (Session.disconnect eng.logged name s).2 := by
  rw [Session.disconnect, get_bind]
  cases known : s.connections.get? name with
  | none => exact before
  | some c =>
    have shared : s.shared? (.handle name) = some c.id := by simp [shared?, known]
    have turned := before.turn (.handle name)
      (shared?_connections (OrderedMap.get?_erase s.connections name)) ⟨rfl, rfl, rfl⟩ (by simp) (by simp)
    rw [shared] at turned
    exact turned.release

theorem free (before : Extends eng engine deeds none s) (name : String) :
    Extends eng engine deeds none (Session.free eng.logged name s).2 := by
  rw [Session.free, get_bind]
  cases known : s.statements.get? name with
  | none => exact before
  | some st =>
    have shared : s.shared? (.statement name) = some st.owner := by simp [shared?, known]
    have turned := before.turn (.statement name)
      (shared?_statements (OrderedMap.get?_erase s.statements name)) ⟨rfl, rfl, rfl⟩ (by simp) (by simp)
    rw [shared] at turned
    exact turned.release

theorem keep (before : Extends eng engine deeds none s) (name : String) {st : OwnedStatement}
    (there : (s.live.get? st.owner).isSome) :
    Extends eng engine deeds none (Session.keep eng.logged name st s).2 := by
  have turned := before.turn (.statement name)
    (shared?_statements (OrderedMap.get?_insert s.statements name · st)) ⟨rfl, rfl, rfl⟩ (by simp)
    (by simpa using there)
  rw [Session.keep, get_bind]
  cases known : s.statements.get? name with
  | none =>
    have shared : s.shared? (.statement name) = none := by simp [shared?, known]
    rw [shared] at turned
    exact turned
  | some old =>
    have shared : s.shared? (.statement name) = some old.owner := by simp [shared?, known]
    rw [shared] at turned
    exact turned.release

theorem makeStatement (before : Extends eng engine deeds none s) (connection keepAs : String)
    (op : Operation) {make : StateM (Running (σ × List Call)) (Except Error (Option Statement))}
    (same : ∀ r, (make r).2 = (op.perform eng.logged r).2) :
    Extends eng engine deeds none
      (Session.makeStatement eng.logged connection keepAs make s).2 := by
  cases named? : s.connections.get? connection with
  | none =>
    rw [makeStatement_unnamed named?]
    exact before
  | some named =>
    rw [makeStatement_named named?]
    have made := before.onShared (.operation op) same named.id
    rcases result : Session.onShared named.id make s with ⟨_ | (e | (_ | st)), s₁⟩
    all_goals rw [result] at made
    · exact made
    · exact made
    · exact made
    · have same : s₁.connections = s.connections := by
        have same := (onShared_sameNames named.id make s).connections
        rwa [result] at same
      have shared : s₁.shared? (.handle connection) = some named.id := by
        simp [shared?, same, named?]
      exact made.keep keepAs (made.1.standing named.id (isOwned_iff.mpr ⟨_, shared⟩))

theorem operate (before : Extends eng engine deeds none s) (connection keepAs : String)
    (op : Operation) :
    Extends eng engine deeds none
      (Command.performOperation eng.logged connection keepAs op s).2 := by
  cases op with
  | exec sql => exact before.onConnection (.operation (.exec sql)) (fun _ => rfl) connection
  | begin => exact before.onConnection (.operation .begin) (fun _ => rfl) connection
  | commit => exact before.onConnection (.operation .commit) (fun _ => rfl) connection
  | rollBack => exact before.onConnection (.operation .rollBack) (fun _ => rfl) connection
  | query sql => exact before.makeStatement connection keepAs (.query sql) fun _ => rfl
  | queryMode sql mode =>
    exact before.makeStatement connection keepAs (.queryMode sql mode) fun _ => rfl
  | queryStyle objects sql style args =>
    exact before.makeStatement connection keepAs (.queryStyle objects sql style args) fun _ => rfl
  | prepare sql => exact before.makeStatement connection keepAs (.prepare sql) fun _ => rfl

theorem execute (before : Extends eng engine deeds none s) (name : String) (params : List Value) :
    Extends eng engine deeds none (Session.execute eng.logged name params s).2 := by
  rw [Session.execute, get_bind]
  cases known : s.statements.get? name with
  | none => exact before
  | some st =>
    let act := Connection.execute eng.logged st.statement params
    have ran := before.onShared (.execute st.statement params) (fun r => (rfl : (act r).2 = _)) st.owner
    have there : (Session.onShared st.owner act s).2.statements.get? name = some st := by
      rw [(onShared_sameNames st.owner act s).statements, known]
    simp only [Engine.bind_apply]
    rcases result : Session.onShared st.owner act s with ⟨_ | ⟨reply, statement⟩, s₁⟩
    all_goals rw [result] at ran there
    · exact ran
    · exact ran.put there (by rfl) s₁.objects

theorem fetch (before : Extends eng engine deeds none s) (name : String) (mode : Option FetchMode) :
    Extends eng engine deeds none (Session.fetch eng.logged name mode s).2 := by
  cases found : s.statement? name with
  | none =>
    rw [fetch_missing found]
    exact before
  | some known =>
    obtain ⟨st, state⟩ := known
    rw [fetch_found found]
    let work := st.statement.fetch state mode s.objects
    have there : (work.run (respond eng.logged) s).2.statements.get? name = some st := by
      rw [(run_sameNames work s).statements]
      exact (statement?_eq_some.mp found).1
    exact (before.run work).put there (by rfl) _

theorem fetchUpTo (before : Extends eng engine deeds none s) (name : String)
    (mode : Option FetchMode) (n : Nat) :
    Extends eng engine deeds none (Session.fetchUpTo eng.logged name mode n s).2 := by
  induction n generalizing s with
  | zero => exact before
  | succ n ih =>
    have first := before.fetch name mode
    rw [fetchUpTo_succ]
    rcases fetched : Session.fetch eng.logged name mode s with ⟨_ | (e | (_ | row)), s₁⟩
    all_goals rw [fetched] at first
    · exact first
    · exact first
    · exact first
    · exact ih first

theorem fetchAll (before : Extends eng engine deeds none s) (name : String)
    (mode : Option FetchMode) :
    Extends eng engine deeds none (Session.fetchAll eng.logged name mode s).2 := by
  rw [Session.fetchAll, get_bind]
  cases s.statements.get? name with
  | none => exact before
  | some st => exact before.fetchUpTo name mode st.statement.remaining

theorem fetchColumn (before : Extends eng engine deeds none s) (name : String) (i : Nat) :
    Extends eng engine deeds none (Session.fetchColumn name i s).2 := by
  cases found : s.statement? name with
  | none =>
    rw [fetchColumn_missing found]
    exact before
  | some known =>
    rw [fetchColumn_found found]
    exact before.put (statement?_eq_some.mp found).1 (by rfl) s.objects

theorem setFetchMode (before : Extends eng engine deeds none s) (name : String) (style : FetchStyle)
    (args : List Argument) :
    Extends eng engine deeds none (Session.setFetchMode name style args s).2 := by
  cases found : s.statement? name with
  | none =>
    rw [setFetchMode_missing found]
    exact before
  | some known =>
    rw [setFetchMode_found found]
    exact before.put (statement?_eq_some.mp found).1 (by rfl) s.objects

end Extends

/-- Every command goes on with the course of a settled session, and leaves it settled. -/
theorem perform_extends (before : Extends eng engine deeds none s) (command : Command) :
    Extends eng engine deeds none (command.perform eng.logged s).2 := by
  cases command with
  | connect name dsn options => exact before.connect name dsn options
  | disconnect name => exact before.disconnect name
  | free name => exact before.free name
  | operate connection op keepAs => exact before.operate connection keepAs op
  | setAttribute connection attr v =>
    exact before.onConnection (.setAttribute attr v) (fun _ => rfl) connection
  | getAttribute connection attr =>
    exact before.onConnection (.getAttribute attr) (fun _ => rfl) connection
  | lastInsertId connection =>
    exact before.onConnection .lastInsertId (fun _ => rfl) connection
  | inTransaction connection => exact before.onConnection .look (fun _ => rfl) connection
  | errorInfo connection => exact before.onConnection .look (fun _ => rfl) connection
  | errorCode connection => exact before.onConnection .look (fun _ => rfl) connection
  | execute name params => exact before.execute name params
  | fetch name mode => exact before.fetch name mode
  | fetchAll name mode => exact before.fetchAll name mode
  | fetchColumn name i => exact before.fetchColumn name i
  | setFetchMode name style args => exact before.setFetchMode name style args

theorem performAll_extends (before : Extends eng engine deeds none s) (commands : List Command) :
    Extends eng engine deeds none (performAll eng.logged commands s).2 := by
  induction commands generalizing s with
  | nil => exact before
  | cons command rest ih => exact ih (perform_extends before command)

section Usable
variable {eng : Engine σ} {s : Session σ} {name : String}

structure Answers (eng : Engine σ) (name : String) (s : Session σ) : Prop where
  execute : ∀ params, (execute eng name params s).1.isSome
  fetch : ∀ mode, (fetch eng name mode s).1.isSome
  fetchAll : ∀ mode, (fetchAll eng name mode s).1.isSome
  fetchColumn : ∀ i, (fetchColumn name i s).1.isSome
  setFetchMode : ∀ style args, (setFetchMode name style args s).1.isSome

theorem fetchUpTo_isSome {rows : List Row} {i : Nat} (here : s.StandsAt name rows i)
    (mode : Option FetchMode) (n : Nat) : (fetchUpTo eng name mode n s).1.isSome := by
  induction n generalizing s i with
  | zero => rfl
  | succ n ih =>
    rw [fetchUpTo_succ]
    obtain ⟨-, replied, stands⟩ | ⟨row, outcome, -, -, replied, stands⟩ := fetch_cases eng here mode
    · rcases fetched : fetch eng name mode s with ⟨reply, s'⟩
      rw [fetched] at replied
      obtain rfl : reply = some (.ok none) := replied
      rfl
    · rcases fetched : fetch eng name mode s with ⟨reply, s'⟩
      rw [fetched] at replied stands
      obtain rfl : reply = some (outcome.map some) := replied
      cases outcome with
      | error e => rfl
      | ok row => simpa [Except.map] using ih stands

/-- A statement whose connection is live can be used. -/
theorem answers_of_live {st : OwnedStatement} {c : Connection}
    (known : s.statements.get? name = some st) (there : s.live.get? st.owner = some c) :
    Answers eng name s := by
  have found : s.statement? name = some (st, c.state) :=
    statement?_eq_some.mpr ⟨known, c, there, rfl⟩
  refine ⟨fun params => ?_, fun mode => ?_, fun mode => ?_, fun i => ?_, fun style args => ?_⟩
  · rw [execute, get_bind, known]
    simp only [Engine.bind_apply, onShared_found there]
    rfl
  · rw [fetch_found found]
    rfl
  · rw [fetchAll_found known]
    exact fetchUpTo_isSome ⟨st, c.state, found, rfl, rfl⟩ mode _
  · rw [fetchColumn_found found]
    rfl
  · rw [setFetchMode_found found]
    rfl

/-- An attempt to connect that fails makes no connection and touches none. -/
theorem connect_of_error {dsn : String} {options : ConnectionOptions} {e : Error}
    (failed : (connect eng name dsn options s).1 = .error e) :
    ∃ engine, (connect eng name dsn options s).2 = { s with engine } := by
  rw [connect, get_bind] at failed ⊢
  rcases connected : Connection.connect eng dsn options s.engine with ⟨e' | ⟨c, params⟩, engine⟩
  · exact ⟨engine, rfl⟩
  · cases known : s.connections.get? name with
    | none =>
      simp only [connected, known] at failed
      cases failed
    | some old =>
      simp only [connected, known] at failed
      cases failed

end Usable

/-- The connection was opened and has no owner any more. -/
def abandoned (s : Session σ) (id : ConnectionId) : Bool := decide (id < s.nextId) && !s.isOwned id

/-- What a session that came by some deeds does next, and what it has made of its connections. -/
structure Lifetimes (eng : Engine σ) (engine : σ) (deeds more : List Deed)
    (s s' : Session (σ × List Call)) : Prop where
  before : Course eng engine deeds s
  course : Course eng engine (deeds ++ more) s'
  /-- The engine is called for nothing else. -/
  calls : s'.engine.2 = s.engine.2 ++ more.flatMap Deed.calls
  proper : ∀ d ∈ deeds ++ more, d.Proper
  /-- A connection is live as long as it has an owner. -/
  live : ∀ id, (s'.live.get? id).isSome = s'.isOwned id
  /-- The deeds of every connection make one life. -/
  lives : ∀ id, Status.unborn.run (deedsOf id (deeds ++ more)) = some (s'.status id)
  /-- A connection is released exactly when it is left without owner. -/
  released : ∀ id, (deedsOf id more).countP Deed.isRelease =
    if s'.abandoned id && !s.abandoned id then 1 else 0

/-- In a settled session the connections that are gone are those that were abandoned. -/
theorem status_eq_gone_iff {s : Session σ} (live : ∀ id, (s.live.get? id).isSome = s.isOwned id)
    (id : ConnectionId) : s.status id = .gone ↔ s.abandoned id = true := by
  cases there : s.live.get? id with
  | none =>
    have unowned : s.isOwned id = false := by simp [← live, there]
    by_cases numbered : id < s.nextId <;> simp [status_of_missing there, abandoned, unowned, numbered]
  | some c =>
    have owned : s.isOwned id = true := by simp [← live, there]
    simp [status_of_live there, abandoned, owned]

/-- A connection that goes on with its life is released if it is gone then and was not before. -/
theorem releases_of_course {more : List Deed} (before : Course eng engine deeds s)
    (course : Course eng engine (deeds ++ more) s') (id : ConnectionId) :
    (deedsOf id more).countP Deed.isRelease =
      if s'.status id = .gone ∧ s.status id ≠ .gone then 1 else 0 := by
  have lived := course.life id
  rw [deedsOf_append, Status.run_append, before.life id, Option.bind_some] at lived
  by_cases gone : s.status id = .gone
  · rw [gone] at lived
    simp [(Status.run_gone lived).1, gone]
  · simpa [gone] using Status.releases_of_run lived gone

theorem lifetimes_of_course {more : List Deed} (before : Course eng engine deeds s)
    (course : Course eng engine (deeds ++ more) s') (settled : s.Settled) (settled' : s'.Settled) :
    Lifetimes eng engine deeds more s s' where
  before := before
  course := course
  calls := by rw [course.log, before.log, List.flatMap_append]
  proper := course.proper
  live := settled'.live_iff
  lives := course.life
  released id := by
    rw [releases_of_course before course]
    simp [status_eq_gone_iff settled.live_iff, status_eq_gone_iff settled'.live_iff]

/-- Perform any commands from the start of a session, over any engine, and then one more. The
connections that are live are those that a name or a statement still refers to, so every statement
can be used, whether the name of its connection was dropped or not. Every connection that was opened
works with its own handle only, and is released in the command that takes its last owner, once and for
all: with one rollback if its transaction is active then and none otherwise, and with its handle closed
in any case. No other deed rolls back unless a caller asks for it, and none closes a handle but that of
an attempt to connect which failed. Such an attempt makes no connection and touches none. -/
theorem shared_connections_released_once (eng : Engine σ) (engine : σ) (commands : List Command)
    (command : Command) :
    let s := (performAll eng.logged commands (start (engine, []))).2
    let s' := (command.perform eng.logged s).2
    (∃ deeds more, Lifetimes eng engine deeds more s s') ∧
    (∀ name, (s'.statements.get? name).isSome → Answers eng.logged name s') ∧
    ∀ name dsn options e, (connect eng.logged name dsn options s).1 = .error e →
      ∃ after, (connect eng.logged name dsn options s).2 = { s with engine := after } := by
  intro s s'
  have started : Extends eng engine [] none (start (engine, [])) :=
    ⟨settled_start (engine, []), [], .start⟩
  obtain ⟨settled, deeds, before⟩ := performAll_extends started commands
  have here : Extends eng engine deeds none s := ⟨settled, [], by simpa using before⟩
  obtain ⟨settled', more, course⟩ := perform_extends here command
  refine ⟨⟨deeds, more, lifetimes_of_course before course settled settled'⟩, ?_, ?_⟩
  · intro name known
    obtain ⟨st, known⟩ := Option.isSome_iff_exists.mp known
    have owned : s'.isOwned st.owner = true :=
      isOwned_iff.mpr ⟨.statement name, by simp [shared?, s', known]⟩
    obtain ⟨c, there⟩ := Option.isSome_iff_exists.mp (settled'.standing st.owner owned)
    exact answers_of_live known there
  · intro name dsn options e failed
    exact connect_of_error failed

/-- A connection that is left to one statement is closed when that is freed, and its transaction is
rolled back then, although that fails. -/
example :
    let state := { Connection.State.ofOptions .standard with transaction := .active }
    let last : Session (Recording × List Call) :=
      { start (.ofEvents [.failed ⟨5, "database is locked"⟩, .flag false], []) with
        live := .insert .empty 0 ⟨⟨3⟩, state⟩
        statements := .insert .empty "q" ⟨0, .ofSql "SELECT 1" none⟩
        nextId := 1 }
    let after := ((Command.free "q").perform Recording.engine.logged last).2
    last.status 0 = .alive ⟨3⟩ ∧ after.status 0 = .gone ∧
      after.engine.2 = [.execute ⟨3⟩ "ROLLBACK", .autocommit ⟨3⟩, .close ⟨3⟩] :=
  ⟨rfl, rfl, rfl⟩

end SqlBridge.Session
