import SqlBridge.Connection
import SqlBridge.Engine.Recording
import SqlBridge.Proofs.Dsn.Overlay
import SqlBridge.Proofs.Engine.Conversation

/-! # Connecting

An attempt to connect asks the engine for nothing unless its data source name says
all that is needed. Then it opens the storage of the path, registers the name of
the database on the opened handle, and closes the handle again if that fails. What
is read from a data source name never holds a NUL, so the engine is never kept from
taking it.
-/

namespace SqlBridge
open Dsn
variable {σ : Type}

/-! ## What a data source name says -/

/-- The text before the first NUL is the name of this driver, a colon and the body. -/
def Dsn.Describes (dsn body : String) : Prop :=
  untilNul dsn.toList = driverName.toList ++ ':' :: body.toList

/-- What is read under a key goes to the engine as it is. -/
theorem Dsn.hasNul_of_get? {body key value : String} (found : (parse body).get? key = some value) :
    hasNul value = false := by
  have mem : (key, value) ∈ (parse body).entries :=
    (OrderedMap.lookup_eq_some_iff (parse body).nodup_keys).mp found
  simpa [hasNul] using (parse_wellFormed body mem).value_noNul

namespace Connection

/-- What a data source name lacks, the driver before the path and the path before the name of the
database, or else its keys and values and the two that are needed. -/
inductive Needs (dsn : String) : Except Error (Params × String × String) → Prop where
  | noDriver (other : ∀ body, ¬ Describes dsn body) : Needs dsn (.error driverError)
  | noPath {body : String} (describes : Describes dsn body) (lacks : (parse body).path = none) :
      Needs dsn (.error (missingKey "path"))
  | noName {body path : String} (describes : Describes dsn body)
      (file : (parse body).path = some path) (lacks : (parse body).dbname = none) :
      Needs dsn (.error (missingKey "dbname"))
  | complete {body path dbname : String} (describes : Describes dsn body)
      (file : (parse body).path = some path) (name : (parse body).dbname = some dbname) :
      Needs dsn (.ok (parse body, path, dbname))

theorem splitDriver_eq_some {dsn driver body : String} (split : splitDriver dsn = some (driver, body)) :
    untilNul dsn.toList = driver.toList ++ ':' :: body.toList := by
  obtain ⟨parts, found, same⟩ := Option.map_eq_some_iff.mp split
  cases same
  simpa using (of_splitAt? found).1

theorem splitDriver_of_describes {dsn body : String} (describes : Describes dsn body) :
    splitDriver dsn = some (driverName, body) := by
  have noColon : ':' ∉ driverName.toList := by decide
  rw [splitDriver, describes, splitAt?_append noColon]
  simp

theorem requirements_needs (dsn : String) : Needs dsn (requirements dsn) := by
  rw [requirements]
  cases split : splitDriver dsn with
  | none =>
    exact .noDriver fun body describes => by
      rw [splitDriver_of_describes describes] at split
      cases split
  | some parts =>
    obtain ⟨driver, body⟩ := parts
    dsimp only
    split
    next other =>
      exact .noDriver fun body' describes => by
        rw [splitDriver_of_describes describes] at split
        cases split
        exact other rfl
    next same =>
      have describes : Describes dsn body := by
        rw [Describes, splitDriver_eq_some split, Decidable.not_not.mp same]
      cases file : (parse body).path with
      | none => exact .noPath describes file
      | some path =>
        cases name : (parse body).dbname with
        | none => exact .noName describes file name
        | some dbname => exact .complete describes file name

/-! ## What is said -/

/-- How the storage is opened: the engine refuses, or it hands out a handle, which is told how long to
wait unless it should not wait at all. -/
inductive Opening (st : Storage) : List Exchange → Except Error Handle → Prop where
  | refused (f : Failure) :
      Opening st [⟨.connect st.path st.flagWord, .error f⟩]
        (.error (.connect ⟨.opening, some f.code, f.message, none⟩))
  | opened (h : Handle) :
      Opening st (⟨.connect st.path st.flagWord, .ok h⟩ :: if 0 < st.busyTimeout then
        [⟨.setBusyTimeout h (min st.busyTimeout 2147483647), ()⟩] else []) (.ok h)

/-- How a text is registered under a name: at once, or not, and then the engine is asked why. -/
inductive Registering (h : Handle) (name value : String) : List Exchange → Except Error Unit → Prop where
  | refused (code : Int) (f : Failure) :
      Registering h name value [⟨.defineText h name value, .error code⟩, ⟨.lastFailure h, f⟩]
        (.error (.connect ⟨.setup, some code, f.message, none⟩))
  | done : Registering h name value [⟨.defineText h name value, .ok ()⟩] (.ok ())

/-- What is said while a connection is made, and what comes of it. -/
inductive Connecting (dsn : String) (options : ConnectionOptions) :
    List Exchange → Except Error (Connection × Params) → Prop where
  | unsent {e : Error} (lacks : Needs dsn (.error e)) : Connecting dsn options [] (.error e)
  | unopened {params : Params} {path dbname : String} {said : List Exchange} {e : Error}
      (needs : Needs dsn (.ok (params, path, dbname)))
      (opening : Opening (storage options path) said (.error e)) :
      Connecting dsn options said (.error e)
  | unregistered {params : Params} {path dbname : String} {said said' : List Exchange} {h : Handle}
      {e : Error} (needs : Needs dsn (.ok (params, path, dbname)))
      (opening : Opening (storage options path) said (.ok h))
      (registering : Registering h databaseFunction dbname said' (.error e)) :
      Connecting dsn options (said ++ (said' ++ [⟨.close h, ()⟩])) (.error e)
  | connected {params : Params} {path dbname : String} {said said' : List Exchange} {h : Handle}
      (needs : Needs dsn (.ok (params, path, dbname)))
      (opening : Opening (storage options path) said (.ok h))
      (registering : Registering h databaseFunction dbname said' (.ok ())) :
      Connecting dsn options (said ++ said') (.ok (⟨h, .ofOptions options⟩, params))

variable (eng : Engine σ)

theorem openStorage_talks (st : Storage) (fits : hasNul st.path = false) (s : σ) :
    ∃ said, Talks (eng.observed.openStorage st) (eng.openStorage st) s said ∧
      Opening st said (eng.openStorage st s).1 := by
  have asked := Talks.call (.connect st.path st.flagWord) (eng.connect st.path st.flagWord) s
  simp only [Engine.openStorage, fits, Bool.false_eq_true, if_false, Engine.bind_apply]
  rcases answered : eng.connect st.path st.flagWord s with ⟨f | h, s₁⟩
  · rw [answered] at asked
    exact ⟨_, asked.bind answered (.silent _ _), .refused f⟩
  · rw [answered] at asked
    have opened : Opening st _ (.ok h) := .opened h
    by_cases waits : 0 < st.busyTimeout
    · have told := Talks.call (.setBusyTimeout h (min st.busyTimeout 2147483647))
        (eng.setBusyTimeout h (min st.busyTimeout 2147483647)) s₁
      simp only [if_pos waits] at opened ⊢
      exact ⟨_, asked.bind answered (told.bind rfl (.silent _ _)), opened⟩
    · simp only [if_neg waits] at opened ⊢
      exact ⟨_, asked.bind answered (.silent _ _), opened⟩

theorem registerText_talks (h : Handle) {name value : String} (fits : hasNul name = false)
    (fits' : hasNul value = false) (s : σ) :
    ∃ said, Talks (eng.observed.registerText h name value) (eng.registerText h name value) s said ∧
      Registering h name value said (eng.registerText h name value s).1 := by
  have asked := Talks.call (.defineText h name value) (eng.defineText h name value) s
  simp only [Engine.registerText, fits, fits', Bool.false_eq_true, if_false, Engine.bind_apply]
  rcases answered : eng.defineText h name value s with ⟨code | _, s₁⟩
  · rw [answered] at asked
    have told := Talks.call (.lastFailure h) (eng.lastFailure h) s₁
    exact ⟨_, asked.bind answered (told.bind rfl (.silent _ _)), .refused code (eng.lastFailure h s₁).1⟩
  · rw [answered] at asked
    exact ⟨_, asked.bind answered (.silent _ _), .done⟩

theorem Needs.fits {dsn path dbname : String} {params : Params}
    (needs : Needs dsn (.ok (params, path, dbname))) : hasNul path = false ∧ hasNul dbname = false := by
  cases needs with
  | complete describes file name => exact ⟨hasNul_of_get? file, hasNul_of_get? name⟩

theorem connect_talks (dsn : String) (options : ConnectionOptions) (s : σ) :
    ∃ said, Talks (connect eng.observed dsn options) (connect eng dsn options) s said ∧
      Connecting dsn options said (connect eng dsn options s).1 := by
  have needs := requirements_needs dsn
  rw [connect, connect]
  generalize requirements dsn = required at needs
  rcases required with e | ⟨params, path, dbname⟩
  · exact ⟨[], .silent _ _, .unsent needs⟩
  · obtain ⟨fits, fits'⟩ := needs.fits
    obtain ⟨said, opens, opening⟩ := openStorage_talks eng (storage options path) fits s
    simp only [Engine.bind_apply]
    rcases opened : eng.openStorage (storage options path) s with ⟨e | h, s₁⟩
    · rw [opened] at opening
      refine ⟨said ++ [], opens.bind opened (.silent _ _), ?_⟩
      rw [List.append_nil]
      exact .unopened needs opening
    · rw [opened] at opening
      obtain ⟨said', registers, registering⟩ :=
        registerText_talks eng h (by decide : hasNul databaseFunction = false) fits' s₁
      simp only [Engine.bind_apply]
      rcases registered : eng.registerText h databaseFunction dbname s₁ with ⟨e | _, s₂⟩
      · rw [registered] at registering
        have closes := Talks.call (.close h) (eng.close h) s₂
        exact ⟨_, opens.bind opened (registers.bind registered (closes.bind rfl (.silent _ _))),
          .unregistered needs opening registering⟩
      · rw [registered] at registering
        refine ⟨said ++ (said' ++ []), opens.bind opened (registers.bind registered (.silent _ _)), ?_⟩
        rw [List.append_nil]
        exact .connected needs opening registering

/-! ## What never happens -/

def nulPathError : Error := .connect ⟨.opening, none, "Invalid path: contains null byte", none⟩

/-- An error is what the data source name lacks, or one of opening or of setup with the engine's code. -/
theorem Connecting.error_eq {dsn : String} {options : ConnectionOptions} {said : List Exchange}
    {e : Error} (connecting : Connecting dsn options said (.error e)) :
    e = driverError ∨ (∃ key, e = missingKey key) ∨
      ∃ stage code message, e = .connect ⟨stage, some code, message, none⟩ := by
  cases connecting with
  | unsent lacks =>
    cases lacks with
    | noDriver => exact .inl rfl
    | noPath | noName => exact .inr (.inl ⟨_, rfl⟩)
  | unopened needs opening =>
    cases opening with
    | refused f => exact .inr (.inr ⟨_, _, _, rfl⟩)
  | unregistered needs opening registering =>
    cases registering with
    | refused code f => exact .inr (.inr ⟨_, _, _, rfl⟩)

theorem Connecting.ne_nulError {dsn : String} {options : ConnectionOptions} {said : List Exchange}
    {e : Error} (connecting : Connecting dsn options said (.error e)) :
    e ≠ nulPathError ∧ ∀ text, e ≠ nulError text := by
  rcases connecting.error_eq with rfl | ⟨key, rfl⟩ | ⟨stage, code, message, rfl⟩ <;>
    simp [driverError, missingKey, nulPathError, nulError]

/-- The error mode is set on the connection that was made and plays no other part. -/
theorem connect_errorMode (dsn : String) (options : ConnectionOptions) (mode : Option ErrorMode) (s : σ) :
    connect eng dsn { options with errorMode := mode } s =
      ((connect eng dsn options s).1.map fun made =>
          (⟨made.1.handle, .ofOptions { options with errorMode := mode }⟩, made.2),
        (connect eng dsn options s).2) := by
  rw [connect, connect]
  rcases requirements dsn with e | ⟨params, path, dbname⟩
  · rfl
  · have same : storage { options with errorMode := mode } path = storage options path := rfl
    simp only [Engine.bind_apply, same]
    rcases eng.openStorage (storage options path) s with ⟨e | h, s₁⟩
    · rfl
    · simp only [Engine.bind_apply]
      rcases eng.registerText h databaseFunction dbname s₁ with ⟨e | _, s₂⟩ <;> rfl

theorem requirements_congr {dsn dsn' : String} (same : untilNul dsn'.toList = untilNul dsn.toList) :
    requirements dsn' = requirements dsn := by
  rw [requirements, requirements, splitDriver, splitDriver, same]

/-- Connecting asks the engine only for what a complete data source name says: nothing is said unless the
driver is named and both the path and the name of the database are there. The engine can always take them.
A failure is an error in every error mode, after the same calls, and nothing behind the first NUL plays a
part. -/
theorem connect_when_complete (eng : Engine σ) (dsn : String) (options : ConnectionOptions) (s : σ) :
    (∃ said, Talks (connect eng.observed dsn options) (connect eng dsn options) s said ∧
      Connecting dsn options said (connect eng dsn options s).1) ∧
    (∀ e, (connect eng dsn options s).1 = .error e →
      e ≠ nulPathError ∧ (∀ text, e ≠ nulError text) ∧
      ∀ mode, connect eng dsn { options with errorMode := mode } s =
        (.error e, (connect eng dsn options s).2)) ∧
    ∀ dsn', untilNul dsn'.toList = untilNul dsn.toList →
      connect eng dsn' options = connect eng dsn options := by
  obtain ⟨said, talks, connecting⟩ := connect_talks eng dsn options s
  refine ⟨⟨said, talks, connecting⟩, ?_, ?_⟩
  · intro e failed
    rw [failed] at connecting
    obtain ⟨path, text⟩ := connecting.ne_nulError
    refine ⟨path, text, fun mode => ?_⟩
    rw [connect_errorMode, failed]
    rfl
  · intro dsn' same
    rw [connect, connect, requirements_congr same]

/-- The database has a name with a semicolon, and the engine refuses to register it. What follows the NUL
would name another file. -/
theorem connect_when_complete_unregistered :
    let dsn := "mysql-on-sqlite:dbname=d;;e;path=p\x00;path=q"
    let shorter := "mysql-on-sqlite:dbname=d;;e;path=p"
    let engine := Recording.ofEvents [.done, .failed ⟨21, "misuse"⟩]
    let e : Error := .connect ⟨.setup, some 21, "misuse", none⟩
    let made := connect Recording.engine dsn .standard engine
    made.1 = .error e ∧ untilNul shorter.toList = untilNul dsn.toList ∧
      (∃ said, Connecting dsn .standard said (.error e)) ∧ e ≠ nulPathError ∧
      (connect Recording.engine dsn { ConnectionOptions.standard with errorMode := some .silent } engine).1 =
        .error e ∧
      connect Recording.engine shorter .standard = connect Recording.engine dsn .standard := by
  intro dsn shorter engine e made
  have told : (match made.1 with | .ok _ => none | .error e => some e) = some e := by decide +kernel
  have failed : made.1 = .error e := by
    split at told
    next => cases told
    next raised => rw [raised, Option.some_inj.mp told]
  have same : untilNul shorter.toList = untilNul dsn.toList := by decide +kernel
  obtain ⟨⟨said, -, connecting⟩, refused, alike⟩ :=
    connect_when_complete Recording.engine dsn .standard engine
  rw [failed] at connecting
  obtain ⟨path, -, shown⟩ := refused e failed
  refine ⟨failed, same, ⟨said, connecting⟩, path, ?_, alike shorter same⟩
  rw [shown]

end Connection
end SqlBridge
