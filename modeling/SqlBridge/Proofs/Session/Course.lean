import SqlBridge.Proofs.Connection.CallsMade
import SqlBridge.Proofs.Session.Ownership

/-! # The course of a session

What a session does to its shared connections is a sequence of deeds: one is
opened, does its work and is released in the end, or fails to open. Each deed
comes with the calls that it makes of the engine. In between, names turn to other
connections, and never to one that is not live. The deeds of one connection make
one life.
-/

namespace SqlBridge.Session
open Connection
variable {σ α : Type} {eng : Engine σ} {engine : σ} {id : ConnectionId}

/-- What happens to a shared connection, with the calls that it takes. -/
inductive Deed where
  | failed (calls : List Call)
  | opened (id : ConnectionId) (h : Handle) (calls : List Call)
  | worked (id : ConnectionId) (h : Handle) (job : Job) (calls : List Call)
  | released (id : ConnectionId) (h : Handle) (active refused : Bool)

namespace Deed

def id? : Deed → Option ConnectionId
  | failed _ => none
  | opened id _ _ | worked id _ _ _ | released id _ _ _ => some id

def calls : Deed → List Call
  | failed calls | opened _ _ calls | worked _ _ _ calls => calls
  | released _ h active refused => closingCalls h active refused

/-- The calls are such as the deed is meant to make. Work uses the handle of the connection, and
rolls back only if a caller asks for it. A release rolls back once if the transaction is active, and not
otherwise; its last call closes the handle, and no other does. -/
def Proper : Deed → Prop
  | failed calls => Attempt calls none
  | opened _ h calls => Attempt calls (some h)
  | worked _ h job calls => ∀ call ∈ calls, job.Allows h call
  | released _ h active refused =>
    ∃ before, closingCalls h active refused = before ++ [.close h] ∧
      (∀ call ∈ before, call.worksOn h = true) ∧
      before.countP Call.rollsBack = if active then 1 else 0

theorem proper_released (id : ConnectionId) (h : Handle) (active refused : Bool) :
    (released id h active refused).Proper := by
  refine ⟨_, rfl, ?_⟩
  cases active <;> cases refused <;> simp [Call.worksOn, Call.rollsBack]

def isRelease : Deed → Bool
  | released _ _ _ _ => true
  | _ => false

end Deed

def deedsOf (id : ConnectionId) (deeds : List Deed) : List Deed :=
  deeds.filter fun d => d.id? = some id

theorem deedsOf_append (id : ConnectionId) (deeds more : List Deed) :
    deedsOf id (deeds ++ more) = deedsOf id deeds ++ deedsOf id more :=
  List.filter_append ..

/-- How far a connection is in its life. -/
inductive Status where
  | unborn
  | alive (h : Handle)
  | gone
deriving DecidableEq

namespace Status

/-- What becomes of a connection by a deed; there is nothing for a deed out of order. Only a
connection that was never there is opened, only one that is alive works and is released, with the handle
that it was opened with, and one that is gone does nothing. -/
def after : Status → Deed → Option Status
  | unborn, .opened _ h _ => some (alive h)
  | alive h, .worked _ h' _ _ => if h' = h then some (alive h) else none
  | alive h, .released _ h' _ _ => if h' = h then some gone else none
  | _, _ => none

def run (status : Status) (deeds : List Deed) : Option Status := deeds.foldlM after status

theorem run_append (status : Status) (deeds more : List Deed) :
    status.run (deeds ++ more) = (status.run deeds).bind fun status => status.run more :=
  List.foldlM_append

theorem run_gone {deeds : List Deed} {status : Status} (run : gone.run deeds = some status) :
    deeds = [] ∧ status = gone := by
  cases deeds with
  | nil => exact ⟨rfl, (Option.some_inj.mp run).symm⟩
  | cons d deeds => cases run

/-- A connection is released by its deeds if it is gone after them, and then once. -/
theorem releases_of_run {deeds : List Deed} {status status' : Status}
    (run : status.run deeds = some status') (there : status ≠ gone) :
    deeds.countP Deed.isRelease = if status' = gone then 1 else 0 := by
  induction deeds generalizing status with
  | nil =>
    obtain rfl : status = status' := Option.some_inj.mp run
    simp [there]
  | cons d deeds ih =>
    obtain ⟨next, first, rest⟩ := Option.bind_eq_some_iff.mp run
    cases status with
    | gone => exact absurd rfl there
    | unborn =>
      cases d with
      | opened id h calls =>
        obtain rfl : alive h = next := Option.some_inj.mp first
        simpa [Deed.isRelease] using ih rest (by simp)
      | _ => cases first
    | alive h =>
      cases d with
      | worked id h' job calls =>
        by_cases same : h' = h
        · obtain rfl : alive h = next := by simpa [after, same] using first
          simpa [Deed.isRelease] using ih rest (by simp)
        · simp [after, same] at first
      | released id h' active refused =>
        by_cases same : h' = h
        · obtain rfl : gone = next := by simpa [after, same] using first
          obtain ⟨rfl, rfl⟩ := run_gone rest
          simp [Deed.isRelease]
        · simp [after, same] at first
      | _ => cases first

end Status

def status (s : Session σ) (id : ConnectionId) : Status :=
  (s.live.get? id).elim (if id < s.nextId then .gone else .unborn) fun c => .alive c.handle

theorem status_of_live {s : Session σ} {c : Connection} (there : s.live.get? id = some c) :
    s.status id = .alive c.handle := by
  simp [status, there]

theorem status_of_missing {s : Session σ} (missing : s.live.get? id = none) :
    s.status id = if id < s.nextId then .gone else .unborn := by
  simp [status, missing]

theorem status_congr {s s' : Session σ} (live : s'.live.get? id = s.live.get? id)
    (numbered : id < s'.nextId ↔ id < s.nextId) : s'.status id = s.status id := by
  simp [status, live, numbered]

/-- The session with a connection after work. -/
def after (s : Session σ) (id : ConnectionId) (r : Running σ) : Session σ :=
  { s with engine := r.engine, warnings := r.warnings, live := s.live.insert id r.connection }

/-- The session has come by these deeds from its start, over an engine that notes its calls. -/
inductive Course (eng : Engine σ) (engine : σ) : List Deed → Session (σ × List Call) → Prop where
  | start : Course eng engine [] (start (engine, []))
  /-- Names and statements change, and refer to live connections only. -/
  | turn {deeds : List Deed} {s s' : Session (σ × List Call)} (before : Course eng engine deeds s)
      (same : s'.engine = s.engine ∧ s'.live = s.live ∧ s'.nextId = s.nextId)
      (standing : ∀ id, s'.isOwned id = true → (s.live.get? id).isSome) : Course eng engine deeds s'
  /-- An attempt to connect changes nothing but the engine. -/
  | failed {deeds : List Deed} {s : Session (σ × List Call)} (before : Course eng engine deeds s)
      {dsn : String} {options : ConnectionOptions} {e : Error} {p : σ × List Call} {calls : List Call}
      (failed : Connection.connect eng.logged dsn options s.engine = (.error e, p))
      (made : p.2 = s.engine.2 ++ calls) (attempt : Attempt calls none) :
      Course eng engine (deeds ++ [.failed calls]) { s with engine := p }
  | opened {deeds : List Deed} {s : Session (σ × List Call)} (before : Course eng engine deeds s)
      {dsn : String} {options : ConnectionOptions} {c : Connection} {params : Dsn.Params}
      {p : σ × List Call} {calls : List Call}
      (connected : Connection.connect eng.logged dsn options s.engine = (.ok (c, params), p))
      (made : p.2 = s.engine.2 ++ calls) (attempt : Attempt calls (some c.handle)) :
      Course eng engine (deeds ++ [.opened s.nextId c.handle calls])
        { s with engine := p, live := s.live.insert s.nextId c, nextId := s.nextId + 1 }
  | worked {deeds : List Deed} {s : Session (σ × List Call)} (before : Course eng engine deeds s)
      {id : ConnectionId} {c : Connection} (there : s.live.get? id = some c) (job : Job)
      {calls : List Call}
      (made : (job.effect eng.logged ⟨s.engine, c, s.warnings⟩).engine.2 = s.engine.2 ++ calls)
      (allowed : ∀ call ∈ calls, job.Allows c.handle call) :
      Course eng engine (deeds ++ [.worked id c.handle job calls])
        (s.after id (job.effect eng.logged ⟨s.engine, c, s.warnings⟩))
  /-- A connection without owner is closed, with a rollback if its transaction is active. -/
  | released {deeds : List Deed} {s : Session (σ × List Call)} (before : Course eng engine deeds s)
      {id : ConnectionId} {c : Connection} (there : s.live.get? id = some c)
      (unowned : s.isOwned id = false) {refused : Bool}
      (made : (close eng.logged ⟨s.engine, c, s.warnings⟩).2.engine.2 =
        s.engine.2 ++ closingCalls c.handle c.state.inTransaction refused) :
      Course eng engine (deeds ++ [.released id c.handle c.state.inTransaction refused])
        { s.after id (close eng.logged ⟨s.engine, c, s.warnings⟩).2 with live := s.live.erase id }

namespace Course
variable {deeds : List Deed} {s : Session (σ × List Call)}

theorem log (course : Course eng engine deeds s) : s.engine.2 = deeds.flatMap Deed.calls := by
  induction course with
  | start => rfl
  | turn before same standing ih => rw [same.1, ih]
  | failed before failed made attempt ih => simp [made, ih, Deed.calls]
  | opened before connected made attempt ih => simp [made, ih, Deed.calls]
  | worked before there job made allowed ih => simp [after, made, ih, Deed.calls]
  | released before there unowned made ih => simp [after, made, ih, Deed.calls]

theorem proper (course : Course eng engine deeds s) : ∀ d ∈ deeds, d.Proper := by
  induction course with
  | start => simp
  | turn before same standing ih => exact ih
  | failed before failed made attempt ih => simpa [or_imp, forall_and, Deed.Proper] using ⟨ih, attempt⟩
  | opened before connected made attempt ih =>
    simpa [or_imp, forall_and, Deed.Proper] using ⟨ih, attempt⟩
  | worked before there job made allowed ih =>
    simpa [or_imp, forall_and, Deed.Proper] using ⟨ih, allowed⟩
  | released before there unowned made ih =>
    simpa [or_imp, forall_and, Deed.proper_released] using ih

theorem numbered (course : Course eng engine deeds s) {id : ConnectionId}
    (there : (s.live.get? id).isSome) : id < s.nextId := by
  induction course with
  | start => cases there
  | turn before same standing ih =>
    rw [same.2.1] at there
    rw [same.2.2]
    exact ih there
  | failed before failed made attempt ih => exact ih there
  | opened before connected made attempt ih =>
    rename_i s _ _ _ _ _ _
    by_cases new : s.nextId = id
    · exact new ▸ Nat.lt_succ_self _
    · simp only [OrderedMap.get?_insert, if_neg new] at there
      exact Nat.lt_succ_of_lt (ih there)
  | worked before alive job made allowed ih =>
    rename_i id' _ _
    by_cases here : id' = id
    · exact ih (by rw [← here, alive]; rfl)
    · simp only [after, OrderedMap.get?_insert, if_neg here] at there
      exact ih there
  | released before alive unowned made ih =>
    rename_i id' _ _
    by_cases here : id' = id
    · exact ih (by rw [← here, alive]; rfl)
    · simp only [OrderedMap.get?_erase, if_neg here] at there
      exact ih there

/-- One more deed goes on with the life of its connection, and with no other. -/
theorem run_deedsOf_snoc {id : ConnectionId} {status status' : Status} {d : Deed}
    (lived : Status.unborn.run (deedsOf id deeds) = some status)
    (next : (if d.id? = some id then status.after d else some status) = some status') :
    Status.unborn.run (deedsOf id (deeds ++ [d])) = some status' := by
  rw [deedsOf_append, Status.run_append, lived, Option.bind_some]
  by_cases own : d.id? = some id
  · rw [if_pos own] at next
    simp [deedsOf, own, Status.run, next]
  · rw [if_neg own] at next
    simpa [deedsOf, own, Status.run] using next

/-- The deeds of a connection make one life, which has come as far as the session shows. -/
theorem life (course : Course eng engine deeds s) (id : ConnectionId) :
    Status.unborn.run (deedsOf id deeds) = some (s.status id) := by
  induction course with
  | start => rfl
  | turn before same standing ih =>
    rw [ih, status_congr (by rw [same.2.1]) (by rw [same.2.2])]
  | failed before failed made attempt ih => exact run_deedsOf_snoc ih (if_neg (by simp [Deed.id?]))
  | @opened _ s before _ _ c _ _ _ connected made attempt ih =>
    apply run_deedsOf_snoc ih
    by_cases new : s.nextId = id
    · have missing : s.live.get? id = none := by
        rw [← Option.not_isSome_iff_eq_none]
        exact fun there => Nat.lt_irrefl id (lt_of_lt_of_eq (before.numbered there) new)
      have unborn : s.status id = .unborn := by simp [status_of_missing missing, new]
      rw [if_pos (by simp [Deed.id?, new]), unborn,
        status_of_live (c := c) (by simp [OrderedMap.get?_insert, new])]
      rfl
    · have older : id < s.nextId + 1 ↔ id < s.nextId :=
        Nat.lt_succ_iff.trans (Nat.le_iff_lt_or_eq.trans (or_iff_left (Ne.symm new)))
      rw [if_neg (by simpa [Deed.id?] using new)]
      exact congrArg some (Eq.symm (status_congr (by simp [OrderedMap.get?_insert, new]) older))
  | @worked _ s before id' c there job _ made allowed ih =>
    apply run_deedsOf_snoc ih
    have kept : (job.effect eng.logged ⟨s.engine, c, s.warnings⟩).connection.handle = c.handle :=
      congrArg Origin.handle (job.effect_origin eng.logged ⟨s.engine, c, s.warnings⟩)
    by_cases own : id' = id
    · rw [if_pos (by simp [Deed.id?, own]), status_of_live (own ▸ there),
        status_of_live (by simp [after, OrderedMap.get?_insert, own]; rfl), kept]
      simp [Status.after]
    · rw [if_neg (by simpa [Deed.id?] using own)]
      exact congrArg some
        (Eq.symm (status_congr (by simp [after, OrderedMap.get?_insert, own]) Iff.rfl))
  | @released _ s before id' c there unowned _ made ih =>
    apply run_deedsOf_snoc ih
    by_cases own : id' = id
    · have numbered : id < s.nextId := before.numbered (by rw [← own, there]; rfl)
      rw [if_pos (by simp [Deed.id?, own]), status_of_live (own ▸ there),
        status_of_missing (by simp [OrderedMap.get?_erase, own])]
      simp [Status.after, after, numbered]
    · rw [if_neg (by simpa [Deed.id?] using own)]
      exact congrArg some (Eq.symm (status_congr (by simp [OrderedMap.get?_erase, own]) Iff.rfl))

end Course

end SqlBridge.Session
