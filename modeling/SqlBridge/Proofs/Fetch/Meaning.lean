import SqlBridge.Proofs.Fetch.ChosenMode

/-! # What a style and its arguments mean

A style with its arguments means the modes of that style that have the constructor
arguments or the target given, and whose class is defined as the one given. A mode that
is chosen with the style is among them, under the name in the definition, and so is the
mode that is spelled out by the caller, under any text that is compared as the same name.
All of them lay out every row in the same way.
-/

namespace SqlBridge

namespace FetchMode
variable {classes : ClassTable} {style : FetchStyle} {args : List Argument} {mode mode' : FetchMode}

/-- The mode spells the style out: it has the target or the constructor arguments given, and a class
whose name is the one given but for ASCII case and one leading backslash. -/
inductive Spells : FetchStyle → List Argument → FetchMode → Prop where
  | plain {style : FetchStyle} {mode : FetchMode} (bare : ofStyle? style = some mode) :
      Spells style [] mode
  | ofClass {text className : String} {more : List Argument} {given : List Value} (late : Bool)
      (spelled : ClassTable.lookupName className = ClassTable.lookupName text)
      (arguments : Argument.given? more = some given) :
      Spells (if late then .ofClassLate else .ofClass) (.scalar (.text text) :: more)
        (.ofClass className given late)
  | into (target : ObjectId) : Spells .into [.object target] (.into target)

/-- The mode is of the style and has the target or the constructor arguments given, and its class is
defined as the one given. -/
inductive Means (classes : ClassTable) : FetchStyle → List Argument → FetchMode → Prop where
  | plain {style : FetchStyle} {mode : FetchMode} (bare : ofStyle? style = some mode) :
      Means classes style [] mode
  | ofClass {style : FetchStyle} {text className : String} {more : List Argument}
      {given : List Value} {late : Bool} {c : ObjectClass}
      (styled : style = if late then .ofClassLate else .ofClass)
      (named : classes.find? text = some c) (found : classes.find? className = some c)
      (arguments : Argument.given? more = some given) :
      Means classes style (.scalar (.text text) :: more) (.ofClass className given late)
  | into (target : ObjectId) : Means classes .into [.object target] (.into target)

end FetchMode

namespace StyledCall
open FetchMode
variable {call : StyledCall} {classes : ClassTable} {objects : ObjectStore} {style : FetchStyle}
  {args : List Argument} {mode : FetchMode}

theorem means_of_plain {plain : FetchMode} (accepted : call.plainMode plain args = .ok mode)
    (bare : ofStyle? style = some plain) : Means classes style args mode := by
  obtain ⟨rfl, rfl⟩ := plainMode_accepted accepted
  exact .plain bare

theorem means_of_class (late : Bool) (keyed : classes.WellKeyed)
    (accepted : call.classMode classes objects late args = .ok mode) :
    Means classes (if late then .ofClassLate else .ofClass) args mode := by
  obtain ⟨text, more, c, given, rfl, named, arguments, rfl, -⟩ := classMode_eq_ok accepted
  exact .ofClass rfl named (keyed.find?_name named) arguments

theorem means_of_modeOf (keyed : classes.WellKeyed)
    (accepted : call.modeOf classes objects style args = .ok mode) :
    Means classes style args mode := by
  cases style with
  | ofClass => exact means_of_class false keyed accepted
  | ofClassLate => exact means_of_class true keyed accepted
  | into =>
    obtain ⟨target, rfl, rfl⟩ := intoMode_accepted accepted
    exact .into target
  | both => exact means_of_plain accepted rfl
  | num => exact means_of_plain accepted rfl
  | assoc => exact means_of_plain accepted rfl
  | named => exact means_of_plain accepted rfl
  | object => exact means_of_plain accepted rfl

theorem means_of_chooseMode {chosen : Option FetchMode} (keyed : classes.WellKeyed)
    (accepted : call.chooseMode classes objects (some style) args = .ok chosen) :
    ∃ mode, chosen = some mode ∧ Means classes style args mode := by
  obtain ⟨mode, rfl, made⟩ := chooseMode_eq_ok accepted
  exact ⟨mode, rfl, means_of_modeOf keyed made⟩

/-- A mode that spells the style out is meant where the style is accepted. -/
theorem means_of_spells {chosen : Option FetchMode} (spells : Spells style args mode)
    (accepted : call.chooseMode classes objects (some style) args = .ok chosen) :
    Means classes style args mode := by
  obtain ⟨mode', -, made⟩ := chooseMode_eq_ok accepted
  cases spells with
  | plain bare => exact .plain bare
  | into target => exact .into target
  | @ofClass text className more given late same arguments =>
    have made : call.classMode classes objects late (.scalar (.text text) :: more) = .ok mode' := by
      cases late <;> exact made
    obtain ⟨text', more', c, given', sameArgs, named, -⟩ := classMode_eq_ok made
    cases sameArgs
    have found : classes.find? className = some c := by
      rw [ClassTable.find?, same]
      exact named
    exact .ofClass rfl named found arguments

end StyledCall

/-- All that is meant is laid out in the same way. -/
theorem FetchMode.Means.layOut_eq {settings : LayoutSettings} {style : FetchStyle}
    {args : List Argument} {mode mode' : FetchMode} (means : Means settings.classes style args mode)
    (means' : Means settings.classes style args mode') (row : Row) (objects : ObjectStore) :
    layOut settings row mode' objects = layOut settings row mode objects := by
  cases means with
  | plain bare =>
    cases means' with
    | plain bare' => rw [Option.some_inj.mp (bare'.symm.trans bare)]
  | into target =>
    cases means' with
    | into => rfl
  | @ofClass _ text className more given late c styled named found arguments =>
    cases means' with
    | @ofClass _ _ className' _ given' late' c' styled' named' found' arguments' =>
      obtain rfl : given' = given := Option.some_inj.mp (arguments'.symm.trans arguments)
      obtain rfl : c' = c := Option.some_inj.mp (named'.symm.trans named)
      obtain rfl : late' = late := by
        rw [styled] at styled'
        cases late <;> cases late' <;> simp at styled' ⊢
      simp only [layOut, found, found']

/-- What a fetch makes of the store: a target takes over the columns, and nothing else happens. -/
def FetchMode.storeAfter (settings : LayoutSettings) (row : Row) (objects : ObjectStore) :
    FetchMode → ObjectStore
  | .into target =>
    objects.set target ((objects.get target).assign (Layout.columnPairs settings row))
  | _ => objects

/-- The object given is left with the same contents if it had the same. -/
theorem FetchMode.Means.get_storeAfter {classes : ClassTable} {style : FetchStyle}
    {args : List Argument} {mode mode' : FetchMode} (means : Means classes style args mode)
    (means' : Means classes style args mode') (settings : LayoutSettings) (row : Row)
    {objects objects' : ObjectStore} {target : ObjectId} (given : .object target ∈ args)
    (same : objects'.get target = objects.get target) :
    (mode'.storeAfter settings row objects').get target =
      (mode.storeAfter settings row objects).get target := by
  cases means with
  | plain => cases given
  | ofClass => cases means' with | ofClass => exact same
  | into target' =>
    cases means' with
    | into =>
      obtain rfl : target = target' := Argument.object.inj (List.mem_singleton.mp given)
      rw [storeAfter, storeAfter, ObjectStore.get_set, ObjectStore.get_set, same]

section Laying
variable {τ : Type} (respond : String → Request → StateM τ Answer)

theorem layOut_store (settings : LayoutSettings) (row : Row) (mode : FetchMode)
    (objects : ObjectStore) (s : τ) :
    ((layOut settings row mode objects).run respond s).1.2 = mode.storeAfter settings row objects := by
  cases mode with
  | ofClass className args late =>
    simp only [layOut]
    cases settings.classes.find? className with
    | none => rfl
    | some c => rw [Callout.run_map]; rfl
  | _ => rfl

theorem layOut_outcome (settings : LayoutSettings) (row : Row) (mode : FetchMode)
    (objects objects' : ObjectStore) (s : τ) :
    ((layOut settings row mode objects').run respond s).1.1 =
      ((layOut settings row mode objects).run respond s).1.1 := by
  cases mode with
  | ofClass className args late =>
    simp only [layOut]
    cases settings.classes.find? className with
    | none => rfl
    | some c => simp only [Callout.run_map]
  | _ => rfl

end Laying

end SqlBridge
