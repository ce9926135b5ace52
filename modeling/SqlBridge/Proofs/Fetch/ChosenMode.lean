import SqlBridge.Proofs.Connection.LastError
import SqlBridge.Proofs.Session.Fetch

/-! # Chosen class modes

A mode that is chosen with a style carries the name of the definition that was
found, not the text that was looked up. In a table whose entries stand under the
names of their own definitions both find the same definition, so the mode can be
laid out with the table that it was chosen with: it fails only if the constructor
does.
-/

namespace SqlBridge

namespace ClassTable
variable {t : ClassTable} {c : ObjectClass} {text : String}

/-- Every definition is found by its own name. -/
def WellKeyed (t : ClassTable) : Prop :=
  ∀ key c, t.classes.get? key = some c → key = lookupName c.name

theorem WellKeyed.insert (keyed : t.WellKeyed) (c : ObjectClass) : (t.insert c).WellKeyed := by
  intro key c' found
  rw [ClassTable.insert, OrderedMap.get?_insert] at found
  split at found
  next same =>
    cases found
    exact same.symm
  next => exact keyed key c' found

theorem wellKeyed_standard : standard.WellKeyed :=
  WellKeyed.insert (fun key c found => by rw [OrderedMap.get?_empty] at found; cases found) _

theorem WellKeyed.insertAll (keyed : t.WellKeyed) (cs : List ObjectClass) :
    (t.insertAll cs).WellKeyed := by
  induction cs generalizing t with
  | nil => exact keyed
  | cons c cs ih => exact ih (keyed.insert c)

theorem WellKeyed.find?_name (keyed : t.WellKeyed) (found : t.find? text = some c) :
    t.find? c.name = some c := by
  rw [find?, ← keyed _ c found]
  exact found

end ClassTable

def FetchMode.definition? (classes : ClassTable) : FetchMode → Option ObjectClass
  | .ofClass className _ _ => classes.find? className
  | _ => none

def Argument.definition? (classes : ClassTable) : List Argument → Option ObjectClass
  | .scalar (.text name) :: _ => classes.find? name
  | _ => none

/-- The constructor arguments that stand after the name of a class; null stands for none. -/
def Argument.given? : List Argument → Option (List Value)
  | [] | [.scalar .null] => some []
  | [.array vs] => some vs
  | _ => none

/-- The mode names the given definition, and some definition if it is a class mode. If it was chosen with
a style, it has arguments only for a constructor. -/
structure FetchMode.Resolves (classes : ClassTable) (styled : Bool) (named : Option ObjectClass)
    (mode : FetchMode) : Prop where
  definition : mode.definition? classes = named
  known : ∀ className given late, mode = .ofClass className given late →
    ∃ c, named = some c ∧ (styled = true → given ≠ [] → c.hasConstructor = true)

namespace StyledCall
variable {call : StyledCall} {classes : ClassTable} {objects : ObjectStore} {args : List Argument}
  {mode : FetchMode}

theorem plainMode_accepted {plain : FetchMode} (accepted : call.plainMode plain args = .ok mode) :
    mode = plain ∧ args = [] := by
  rw [plainMode] at accepted
  split at accepted
  next none =>
    cases accepted
    exact ⟨rfl, List.isEmpty_iff.mp none⟩
  next => cases accepted

theorem intoMode_accepted (accepted : call.intoMode objects args = .ok mode) :
    ∃ id, mode = .into id ∧ args = [.object id] := by
  rw [intoMode.eq_def] at accepted
  split at accepted
  next id =>
    cases accepted
    exact ⟨id, rfl, rfl⟩
  next => cases accepted
  next => cases accepted

theorem classArgument_accepted {arg : Argument} {c : ObjectClass}
    (accepted : call.classArgument classes objects arg = .ok c) :
    ∃ text, arg = .scalar (.text text) ∧ classes.find? text = some c := by
  rw [classArgument.eq_def] at accepted
  split at accepted
  next text =>
    split at accepted
    next found =>
      cases accepted
      exact ⟨text, rfl, found⟩
    next => cases accepted
  next => cases accepted

theorem constructorArguments_accepted {more : List Argument} {given : List Value}
    (few : more.length ≤ 1)
    (accepted : call.constructorArguments objects more.head? = .ok given) :
    Argument.given? more = some given := by
  match more, few with
  | [], _ => exact congrArg some (Except.ok.inj accepted)
  | [.scalar .null], _ => exact congrArg some (Except.ok.inj accepted)
  | [.array vs], _ => exact congrArg some (Except.ok.inj accepted)
  | [.scalar (.bool _)], _ | [.scalar (.int _)], _ | [.scalar (.float _)], _
  | [.scalar (.text _)], _ | [.object _], _ => cases accepted

/-- A class mode that is chosen has the name of the definition that was found, and the arguments given.
There are some only for a constructor. -/
theorem classMode_eq_ok {late : Bool}
    (accepted : call.classMode classes objects late args = .ok mode) :
    ∃ text more c given, args = .scalar (.text text) :: more ∧ classes.find? text = some c ∧
      Argument.given? more = some given ∧ mode = .ofClass c.name given late ∧
      (given ≠ [] → c.hasConstructor = true) := by
  rw [classMode.eq_def] at accepted
  split at accepted
  · cases accepted
  next nameArg more =>
    split at accepted
    · cases accepted
    next few =>
      cases named : call.classArgument classes objects nameArg with
      | error e =>
        rw [named] at accepted
        cases accepted
      | ok c =>
        obtain ⟨text, rfl, found⟩ := classArgument_accepted named
        cases counted : call.constructorArguments objects more.head? with
        | error e =>
          rw [named, counted] at accepted
          cases accepted
        | ok given =>
          have arguments := constructorArguments_accepted (Nat.not_lt.mp few) counted
          rw [named, counted] at accepted
          change (if (!given.isEmpty && !c.hasConstructor) = true then _ else _) = _ at accepted
          split at accepted
          next => cases accepted
          next allowed =>
            cases accepted
            refine ⟨text, more, c, given, rfl, found, arguments, rfl, fun some => ?_⟩
            simpa [some] using allowed

theorem classMode_accepted {late : Bool}
    (accepted : call.classMode classes objects late args = .ok mode) :
    ∃ c given, mode = .ofClass c.name given late ∧ Argument.definition? classes args = some c ∧
      (given ≠ [] → c.hasConstructor = true) := by
  obtain ⟨text, more, c, given, rfl, found, -, rfl, constructed⟩ := classMode_eq_ok accepted
  exact ⟨c, given, rfl, found, constructed⟩

theorem resolves_of_plain {plain : FetchMode} (accepted : call.plainMode plain args = .ok mode)
    (bare : plain.style.needsMore = false) :
    mode.Resolves classes true (Argument.definition? classes args) := by
  obtain ⟨rfl, rfl⟩ := plainMode_accepted accepted
  cases mode with
  | ofClass className given late => cases late <;> cases bare
  | _ => exact ⟨rfl, by simp⟩

theorem resolves_of_class {late : Bool} (keyed : classes.WellKeyed)
    (accepted : call.classMode classes objects late args = .ok mode) :
    mode.Resolves classes true (Argument.definition? classes args) := by
  obtain ⟨c, given, rfl, named, constructed⟩ := classMode_accepted accepted
  have found : classes.find? c.name = some c := by
    rw [Argument.definition?.eq_def] at named
    split at named
    · exact keyed.find?_name named
    · cases named
  refine ⟨found.trans named.symm, ?_⟩
  intro className given' late' same
  cases same
  exact ⟨c, named, fun _ => constructed⟩

theorem chooseMode_eq_ok {style : FetchStyle} {chosen : Option FetchMode}
    (accepted : call.chooseMode classes objects (some style) args = .ok chosen) :
    ∃ mode, chosen = some mode ∧ call.modeOf classes objects style args = .ok mode := by
  rw [chooseMode] at accepted
  cases made : call.modeOf classes objects style args with
  | error e =>
    rw [made] at accepted
    cases accepted
  | ok mode =>
    rw [made] at accepted
    cases accepted
    exact ⟨mode, rfl, rfl⟩

/-- A mode that was chosen resolves to the definition that its arguments name. -/
theorem resolves_of_chooseMode {style : Option FetchStyle} (keyed : classes.WellKeyed)
    (accepted : call.chooseMode classes objects style args = .ok (some mode)) :
    mode.Resolves classes true (Argument.definition? classes args) := by
  cases style with
  | none => cases accepted
  | some style =>
    obtain ⟨_, same, accepted⟩ := chooseMode_eq_ok accepted
    cases same
    cases style with
    | ofClass => exact resolves_of_class keyed accepted
    | ofClassLate => exact resolves_of_class keyed accepted
    | into =>
      obtain ⟨id, rfl, rfl⟩ := intoMode_accepted accepted
      exact ⟨rfl, by simp⟩
    | both => exact resolves_of_plain accepted rfl
    | num => exact resolves_of_plain accepted rfl
    | assoc => exact resolves_of_plain accepted rfl
    | named => exact resolves_of_plain accepted rfl
    | object => exact resolves_of_plain accepted rfl

end StyledCall

/-- The object that a constructor is given: the properties are set already unless the mode is late. -/
def ObjectClass.given (c : ObjectClass) (late : Bool) (pairs : List (String × Value)) : Object :=
  if late then c.newObject else c.newObject.assign pairs

section Laying
variable {τ : Type} {respond : String → Request → StateM τ Answer} {s : τ}

theorem Layout.error_of_ofClass {c : ObjectClass} {args : List Value} {late : Bool}
    {pairs : List (String × Value)} {e : Error}
    (failed : ((Layout.ofClass c args late pairs).run respond s).1 = .error e) :
    ((c.runConstructor (c.given late pairs) args).run respond s).1.2 = .error e := by
  cases late with
  | true =>
    rw [Layout.ofClass, if_pos rfl, Callout.run_map] at failed
    exact error_of_map failed
  | false =>
    rw [Layout.ofClass, if_neg Bool.false_ne_true, Callout.run_map] at failed
    exact error_of_map failed

/-- With a known class only the constructor can fail. -/
theorem layOut_error {settings : LayoutSettings} {row : Row} {mode : FetchMode}
    {objects : ObjectStore} {e : Error}
    (known : ∀ className args late, mode = .ofClass className args late →
      (settings.classes.find? className).isSome)
    (failed : ((layOut settings row mode objects).run respond s).1.1 = .error e) :
    ∃ className args late c, mode = .ofClass className args late ∧
      settings.classes.find? className = some c ∧
      ((c.runConstructor (c.given late (Layout.columnPairs settings row)) args).run respond s).1.2 =
        .error e := by
  cases mode with
  | ofClass className args late =>
    obtain ⟨c, found⟩ := Option.isSome_iff_exists.mp (known className args late rfl)
    simp only [layOut, found, Callout.run_map] at failed
    exact ⟨className, args, late, c, rfl, found, Layout.error_of_ofClass (error_of_map failed)⟩
  | _ => cases failed

end Laying

end SqlBridge
