import SqlBridge.Proofs.Connection.Settings

/-! # Writes of attributes

A value fits an attribute or it does not, and what it says there does not depend on
anything but the classes that are known. A write of a value that fits changes its own
setting and nothing else; any other write changes nothing at all. After any number of
writes each setting is therefore what its last accepted write said.
-/

namespace SqlBridge

theorem ErrorMode.ofCode?_eq_some_iff {code : Int} {mode : ErrorMode} :
    ofCode? code = some mode ↔ code = mode.code := by
  constructor
  · intro found
    have same := List.find?_some found
    exact (eq_of_beq same).symm
  · rintro rfl
    exact ofCode?_code mode

theorem FetchStyle.code_of_ofCode? {code : Int} {style : FetchStyle} (found : ofCode? code = some style) :
    style.code = code := by
  have same := List.find?_some found
  exact eq_of_beq same

theorem FetchMode.ofStyle?_eq_some_iff {style : FetchStyle} {mode : FetchMode} :
    ofStyle? style = some mode ↔ mode.style = style ∧ style.needsMore = false := by
  constructor
  · intro alone
    cases style <;> cases alone <;> exact ⟨rfl, rfl⟩
  · rintro ⟨rfl, alone⟩
    cases mode with
    | ofClass className given late => cases late <;> cases alone
    | into target => cases alone
    | _ => rfl

namespace Connection

/-- One of the settings that can be written, with what it is set to. -/
inductive Setting where
  | errorMode (mode : ErrorMode)
  | defaultMode (mode : FetchMode)
  | stringify (on : Bool)

namespace Setting

def target : Setting → Attribute
  | errorMode _ => .errorMode
  | defaultMode _ => .defaultFetchMode
  | stringify _ => .stringifyFetches

/-- The value fits the attribute where these classes are known, and this is what it says. -/
inductive Says (classes : ClassTable) : Attribute → AttributeValue → Setting → Prop where
  | errorMode (mode : ErrorMode) : Says classes .errorMode (.errorMode mode) (.errorMode mode)
  | silent : Says classes .errorMode (.int 0) (.errorMode .silent)
  | warning : Says classes .errorMode (.int 1) (.errorMode .warning)
  | exception : Says classes .errorMode (.int 2) (.errorMode .exception)
  | flag (on : Bool) : Says classes .stringifyFetches (.bool on) (.stringify on)
  | number (i : Int) : Says classes .stringifyFetches (.int i) (.stringify (i != 0))
  | styleCode (mode : FetchMode) (alone : mode.style.needsMore = false) :
      Says classes .defaultFetchMode (.int mode.style.code) (.defaultMode mode)
  | mode (mode : FetchMode) (other : ∀ className given late, mode ≠ .ofClass className given late) :
      Says classes .defaultFetchMode (.fetchMode mode) (.defaultMode mode)
  | classMode (className : String) (given : List Value) (late : Bool) {c : ObjectClass}
      (known : classes.find? className = some c) :
      Says classes .defaultFetchMode (.fetchMode (.ofClass className given late))
        (.defaultMode (.ofClass className given late))

variable {classes : ClassTable} {attr : Attribute} {v : AttributeValue} {setting setting' : Setting}

theorem Says.target_eq (meant : Says classes attr v setting) : setting.target = attr := by
  cases meant <;> rfl

end Setting

namespace State
variable (state : State)

def write : Setting → State
  | .errorMode mode => { state with errorMode := mode }
  | .defaultMode mode => { state with defaultMode := mode }
  | .stringify on => { state with stringify := on }

def setting? : Attribute → Option Setting
  | .errorMode => some (.errorMode state.errorMode)
  | .defaultFetchMode => some (.defaultMode state.defaultMode)
  | .stringifyFetches => some (.stringify state.stringify)
  | _ => none

variable {state}

theorem setting?_write (setting : Setting) (attr : Attribute) :
    (state.write setting).setting? attr =
      if setting.target = attr then some setting else state.setting? attr := by
  cases setting <;> cases attr <;> rfl

theorem classes_write (setting : Setting) : (state.write setting).classes = state.classes := by
  cases setting <;> rfl

theorem says_mode_iff {mode : FetchMode} :
    Setting.Says state.classes .defaultFetchMode (.fetchMode mode) (.defaultMode mode) ↔
      state.acceptsDefault mode = true := by
  cases mode with
  | ofClass className given late =>
    constructor
    · intro meant
      cases meant with
      | mode _ other => exact absurd rfl (other className given late)
      | classMode _ _ _ known => exact Option.isSome_of_eq_some known
    · intro accepts
      obtain ⟨c, known⟩ := Option.isSome_iff_exists.mp accepts
      exact .classMode className given late known
  | _ => exact iff_of_true (.mode _ nofun) rfl

/-- A value is accepted if it fits, and what it says is written. -/
theorem set?_eq_some_iff {attr : Attribute} {v : AttributeValue} {after : State} :
    state.set? attr v = some after ↔
      ∃ setting, Setting.Says state.classes attr v setting ∧ after = state.write setting := by
  constructor
  · intro accepted
    rw [set?.eq_def] at accepted
    split at accepted
    next mode =>
      cases accepted
      exact ⟨_, .errorMode mode, rfl⟩
    next code =>
      obtain ⟨mode, named, rfl⟩ := Option.map_eq_some_iff.mp accepted
      obtain rfl := ErrorMode.ofCode?_eq_some_iff.mp named
      refine ⟨.errorMode mode, ?_, rfl⟩
      cases mode with
      | silent => exact .silent
      | warning => exact .warning
      | exception => exact .exception
    next mode =>
      split at accepted
      next accepts =>
        cases accepted
        exact ⟨_, says_mode_iff.mpr accepts, rfl⟩
      next => cases accepted
    next code =>
      obtain ⟨mode, found, rfl⟩ := Option.map_eq_some_iff.mp accepted
      obtain ⟨style, named, alone⟩ := Option.bind_eq_some_iff.mp found
      obtain ⟨rfl, alone⟩ := FetchMode.ofStyle?_eq_some_iff.mp alone
      rw [← FetchStyle.code_of_ofCode? named]
      exact ⟨_, .styleCode mode alone, rfl⟩
    next on =>
      cases accepted
      exact ⟨_, .flag on, rfl⟩
    next i =>
      cases accepted
      exact ⟨_, .number i, rfl⟩
    next => cases accepted
  · rintro ⟨setting, meant, rfl⟩
    cases meant with
    | errorMode | silent | warning | exception | flag | number => rfl
    | styleCode mode alone =>
      rw [set?, FetchStyle.ofCode?_code, Option.bind_some,
        FetchMode.ofStyle?_eq_some_iff.mpr ⟨rfl, alone⟩]
      rfl
    | mode mode other => exact if_pos (says_mode_iff.mp (.mode mode other))
    | classMode className given late known =>
      exact if_pos (says_mode_iff.mp (.classMode className given late known))

variable {attr : Attribute} {v : AttributeValue} {setting : Setting}

/-- A write is accepted and writes what the value says, or the value does not fit and the state stays. -/
theorem set_cases (state : State) (attr : Attribute) (v : AttributeValue) :
    (∃ setting, Setting.Says state.classes attr v setting ∧
      state.set attr v = (true, state.write setting, [])) ∨
    (∀ setting, ¬ Setting.Says state.classes attr v setting) ∧
      state.set attr v = (false, state, [.attributeRejected attr.code attr.isReadOnly]) := by
  rw [set]
  cases written : state.set? attr v with
  | some after =>
    obtain ⟨setting, meant, rfl⟩ := set?_eq_some_iff.mp written
    exact .inl ⟨setting, meant, rfl⟩
  | none =>
    refine .inr ⟨fun setting meant => ?_, rfl⟩
    rw [set?_eq_some_iff.mpr ⟨setting, meant, rfl⟩] at written
    cases written

theorem set_of_says (meant : Setting.Says state.classes attr v setting) :
    state.set attr v = (true, state.write setting, []) := by
  rw [set, set?_eq_some_iff.mpr ⟨setting, meant, rfl⟩]

def accepted (state : State) : List (Attribute × AttributeValue) → List (Attribute × AttributeValue)
  | [] => []
  | write :: rest =>
    let (fits, after, _) := state.set write.1 write.2
    if fits then write :: after.accepted rest else after.accepted rest

theorem setAll_cons (state : State) (w : Attribute × AttributeValue)
    (rest : List (Attribute × AttributeValue)) :
    state.setAll (w :: rest) = (state.set w.1 w.2).2.1.setAll rest := rfl

theorem classes_setAll (state : State) (writes : List (Attribute × AttributeValue)) :
    (state.setAll writes).classes = state.classes := by
  induction writes generalizing state with
  | nil => rfl
  | cons w rest ih =>
    obtain ⟨_, _, _, same⟩ := state.set_settings w.1 w.2
    rw [setAll_cons, ih, same]

def lastOf? (attr : Attribute) (writes : List (Attribute × AttributeValue)) :
    Option (Attribute × AttributeValue) :=
  writes.reverse.find? (·.1 = attr)

theorem lastOf?_cons (attr : Attribute) (w : Attribute × AttributeValue)
    (rest : List (Attribute × AttributeValue)) :
    lastOf? attr (w :: rest) = (lastOf? attr rest).or (if w.1 = attr then some w else none) := by
  rw [lastOf?, List.reverse_cons, List.find?_append]
  by_cases same : w.1 = attr <;> simp [lastOf?, same]

/-- The setting of an attribute is what the last accepted write to it says, and as it was at the start if
there is none. -/
def FollowsLast (start now : State) (accepted : List (Attribute × AttributeValue)) (attr : Attribute) :
    Prop :=
  match lastOf? attr accepted with
  | none => now.setting? attr = start.setting? attr
  | some w => ∃ setting, Setting.Says start.classes attr w.2 setting ∧ now.setting? attr = some setting

/-- One more write before the others matters only if it is accepted and none of those is. -/
theorem FollowsLast.cons {now : State} {accepted : List (Attribute × AttributeValue)}
    (meant : Setting.Says state.classes attr v setting) {other : Attribute}
    (follows : FollowsLast (state.write setting) now accepted other) :
    FollowsLast state now ((attr, v) :: accepted) other := by
  rw [FollowsLast] at follows ⊢
  rw [lastOf?_cons]
  cases last : lastOf? other accepted with
  | some w =>
    rw [last, classes_write] at follows
    exact follows
  | none =>
    rw [last, setting?_write, meant.target_eq] at follows
    by_cases same : attr = other
    · subst same
      simp only [if_true] at follows
      simpa using ⟨setting, meant, follows⟩
    · simp only [same, if_false] at follows
      simpa [same] using follows

/-- After any number of writes each setting follows the last accepted one. -/
theorem followsLast_setAll (state : State) (writes : List (Attribute × AttributeValue))
    (attr : Attribute) : FollowsLast state (state.setAll writes) (state.accepted writes) attr := by
  induction writes generalizing state with
  | nil => rfl
  | cons w rest ih =>
    rw [setAll_cons, accepted]
    rcases state.set_cases w.1 w.2 with ⟨setting, meant, set⟩ | ⟨-, set⟩
    · rw [set]
      exact (ih (state.write setting)).cons meant
    · rw [set]
      exact ih state

/-- An unknown class stays the default only if no default was accepted. -/
theorem default_of_unknown {accepted : List (Attribute × AttributeValue)} {start now : State}
    (follows : FollowsLast start now accepted .defaultFetchMode) {className : String} {given : List Value}
    {late : Bool} (default : now.defaultMode = .ofClass className given late)
    (unknown : start.classes.find? className = none) :
    start.defaultMode = .ofClass className given late ∧ ∀ w ∈ accepted, w.1 ≠ .defaultFetchMode := by
  rw [FollowsLast] at follows
  cases last : lastOf? .defaultFetchMode accepted with
  | none =>
    rw [last] at follows
    have same : now.defaultMode = start.defaultMode := by simpa [setting?] using follows
    refine ⟨same ▸ default, fun w mem => ?_⟩
    simpa using List.find?_eq_none.mp last w (List.mem_reverse.mpr mem)
  | some w =>
    rw [last] at follows
    obtain ⟨setting, meant, same⟩ := follows
    generalize w.2 = v at meant
    have same : Setting.defaultMode (.ofClass className given late) = setting := by
      simpa [setting?, default] using same
    subst same
    cases meant with
    | styleCode _ alone => cases late <;> cases alone
    | mode _ other => exact absurd rfl (other className given late)
    | classMode _ _ _ known =>
      rw [unknown] at known
      cases known

end State

/-- After any number of writes to a new connection each setting is what the last accepted write to it says,
or the one of the options. The next write is accepted exactly if its value fits, and then it writes what
the value says and nothing else; a write that is rejected changes nothing. Attributes that are read-only
or unknown are never written. A default mode of an unknown class is that of the options, and no write of
the default mode has been accepted. -/
theorem settings_last_accepted (options : ConnectionOptions)
    (writes : List (Attribute × AttributeValue)) :
    let start := State.ofOptions options
    let state := start.setAll writes
    let accepted := start.accepted writes
    (∀ attr, start.FollowsLast state accepted attr) ∧
      (∀ attr v, (state.set attr v).1 = true ↔ ∃ setting, Setting.Says options.classes attr v setting) ∧
      (∀ attr v setting, Setting.Says options.classes attr v setting →
        (state.set attr v).2.1 = state.write setting) ∧
      (∀ attr v, (state.set attr v).1 = false → (state.set attr v).2.1 = state) ∧
      (∀ attr v, attr.isReadOnly = true ∨ (∃ code, attr = .other code) → (state.set attr v).1 = false) ∧
      ∀ className given late, state.defaultMode = .ofClass className given late →
        options.classes.find? className = none →
        options.defaultMode = .ofClass className given late ∧ ∀ w ∈ accepted, w.1 ≠ .defaultFetchMode := by
  intro start state accepted
  have known : state.classes = options.classes := State.classes_setAll start writes
  have follows (attr : Attribute) : start.FollowsLast state accepted attr :=
    State.followsLast_setAll start writes attr
  rw [← known]
  refine ⟨follows, fun attr v => ?_, fun attr v setting meant => ?_, fun attr v => ?_, fun attr v closed => ?_,
    fun className given late default unknown => ?_⟩
  · rcases state.set_cases attr v with ⟨setting, meant, set⟩ | ⟨unfit, set⟩
    · exact iff_of_true (by rw [set]) ⟨setting, meant⟩
    · exact iff_of_false (by simp [set]) fun ⟨setting, meant⟩ => unfit setting meant
  · rw [State.set_of_says meant]
  · rcases state.set_cases attr v with ⟨setting, meant, set⟩ | ⟨unfit, set⟩ <;> simp [set]
  · rcases state.set_cases attr v with ⟨setting, meant, set⟩ | ⟨unfit, set⟩
    · rw [← meant.target_eq] at closed
      cases setting <;> simp [Setting.target, Attribute.isReadOnly] at closed
    · rw [set]
  · rw [known] at unknown
    exact State.default_of_unknown (follows .defaultFetchMode) default unknown

/-- The options name an unknown class as the default. Another class, a style that needs more, a mode that
does not exist and the name of the driver are rejected. -/
theorem settings_last_accepted_rejected :
    let unknown : FetchMode := .ofClass "Missing" [] true
    let options : ConnectionOptions :=
      { ConnectionOptions.standard with generation := .v7, defaultMode := unknown }
    let writes : List (Attribute × AttributeValue) :=
      [(.errorMode, .int 1), (.defaultFetchMode, .fetchMode (.ofClass "other" [] false)),
        (.defaultFetchMode, .int 8), (.stringifyFetches, .int 0), (.errorMode, .int 3),
        (.driverName, .text "x"), (.stringifyFetches, .int (-5)), (.stringifyFetches, .text "0")]
    let start := State.ofOptions options
    let state := start.setAll writes
    start.accepted writes =
        [(.errorMode, .int 1), (.stringifyFetches, .int 0), (.stringifyFetches, .int (-5))] ∧
      state.setting? .errorMode = some (.errorMode .warning) ∧
      state.setting? .stringifyFetches = some (.stringify true) ∧
      state.defaultMode = unknown ∧ options.classes.find? "Missing" = none ∧
      ∀ w ∈ start.accepted writes, w.1 ≠ .defaultFetchMode := by
  intro unknown options writes start state
  have accepted : start.accepted writes =
      [(.errorMode, .int 1), (.stringifyFetches, .int 0), (.stringifyFetches, .int (-5))] := by
    decide +kernel
  have default : state.defaultMode = unknown := by decide +kernel
  have missing : options.classes.find? "Missing" = none := by rfl
  obtain ⟨-, -, -, -, -, stays⟩ := settings_last_accepted options writes
  exact ⟨accepted, rfl, rfl, default, missing, (stays "Missing" [] true default missing).2⟩

end Connection
end SqlBridge
