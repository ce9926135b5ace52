import SqlBridge.Proofs.Fetch.ChosenMode

/-! # The rules of calls with a style

A call with a style is judged by a few rules about the arguments that follow the
style: how many there are, what the first has to be, whether it names a class that
is known, what the second has to be and whether the class can use it. A call that
breaks no rule chooses the mode of its style with what was given. Any other call is
refused for the first rule that it breaks, and the error says what breaks it.
-/

namespace SqlBridge

/-! ## The rules -/

namespace FetchStyle

def wantsClass : FetchStyle → Bool
  | ofClass | ofClassLate => true
  | _ => false

/-- The least number of arguments that have to follow a style. -/
def fewest : FetchStyle → Nat
  | ofClass | ofClassLate | into => 1
  | _ => 0

/-- The greatest number of arguments that may follow a style. -/
def most : FetchStyle → Nat
  | ofClass | ofClassLate => 2
  | into => 1
  | _ => 0

def firstType (style : FetchStyle) : String := if style = into then "object" else "string"

end FetchStyle

inductive CallRule where
  | count
  | firstType
  | classKnown
  | argumentsType
  | constructorPresent

/-- The rules are judged in this order. -/
def CallRule.rank : CallRule → Nat
  | count => 0
  | firstType => 1
  | classKnown => 2
  | argumentsType => 3
  | constructorPresent => 4

def CallRule.Broken (classes : ClassTable) (style : FetchStyle) (args : List Argument) :
    CallRule → Prop
  | count => args.length < style.fewest ∨ style.most < args.length
  | firstType => ∃ arg, args[0]? = some arg ∧
      (style.wantsClass ∧ (∀ name, arg ≠ .scalar (.text name)) ∨
        style = .into ∧ ∀ target, arg ≠ .object target)
  | classKnown => style.wantsClass ∧
      ∃ name, args[0]? = some (.scalar (.text name)) ∧ classes.find? name = none
  | argumentsType => style.wantsClass ∧
      ∃ arg, args[1]? = some arg ∧ arg ≠ .scalar .null ∧ ∀ vs, arg ≠ .array vs
  | constructorPresent => style.wantsClass ∧
      ∃ name c vs, args[0]? = some (.scalar (.text name)) ∧ classes.find? name = some c ∧
        args[1]? = some (.array vs) ∧ vs ≠ [] ∧ c.hasConstructor = false

def CallRule.FirstBroken (classes : ClassTable) (style : FetchStyle) (args : List Argument)
    (rule : CallRule) : Prop :=
  rule.Broken classes style args ∧
    ∀ earlier : CallRule, earlier.rank < rule.rank → ¬ earlier.Broken classes style args

namespace CountBound

/-- The number of arguments that a style allows on this side. A bound on both sides is an exact one. -/
def IsLimit (style : FetchStyle) (limit : Nat) : CountBound → Prop
  | exactly => style.fewest = limit ∧ style.most = limit
  | atLeast => style.fewest = limit ∧ style.fewest < style.most
  | atMost => style.most = limit ∧ style.fewest < style.most

def Violated (expected given : Nat) : CountBound → Prop
  | exactly => given ≠ expected
  | atLeast => given < expected
  | atMost => expected < given

end CountBound

namespace StyledCall

/-- The error of a call that breaks a rule. Arguments are counted with those up to the style: the number
of arguments violates the bound that the error states, and a fault is that of the argument whose position
the error states. -/
inductive Blames (call : StyledCall) (objects : ObjectStore) (style : FetchStyle)
    (args : List Argument) : CallRule → Error → Prop where
  | count (bound : CountBound) (limit : Nat) (allowed : bound.IsLimit style limit)
      (violated : bound.Violated (call.stylePosition + limit) (call.stylePosition + args.length)) :
      Blames call objects style args .count
        (.count ⟨call.method, bound, call.stylePosition + limit, call.stylePosition + args.length⟩)
  | firstType {arg : Argument} (there : args[0]? = some arg) :
      Blames call objects style args .firstType (call.argumentError (call.stylePosition + 1)
        ("must be of type " ++ style.firstType ++ ", " ++ arg.typeName objects ++ " given"))
  | classKnown :
      Blames call objects style args .classKnown
        (call.argumentError (call.stylePosition + 1) "must be a valid class")
  | argumentsType {arg : Argument} (there : args[1]? = some arg) :
      Blames call objects style args .argumentsType (call.argumentError (call.stylePosition + 2)
        ("must be of type ?array, " ++ arg.typeName objects ++ " given"))
  | constructorPresent :
      Blames call objects style args .constructorPresent (call.argumentError (call.stylePosition + 2)
        ("must be empty when class provided in argument #" ++
          Decimal.natText (call.stylePosition + 1) ++ " has no constructor"))

/-- The mode that a style with its arguments stands for: a plain style takes no arguments, a class mode
takes a known class and arguments for its constructor if there is one, and a target is an object. -/
inductive Accepts (classes : ClassTable) : FetchStyle → List Argument → FetchMode → Prop where
  | plain {style : FetchStyle} {mode : FetchMode} (bare : FetchMode.ofStyle? style = some mode) :
      Accepts classes style [] mode
  | ofClass {style : FetchStyle} {text : String} {more : List Argument} {given : List Value}
      {late : Bool} {c : ObjectClass} (styled : style = if late then .ofClassLate else .ofClass)
      (known : classes.find? text = some c) (arguments : Argument.given? more = some given)
      (constructed : given ≠ [] → c.hasConstructor = true) :
      Accepts classes style (.scalar (.text text) :: more) (.ofClass c.name given late)
  | into (target : ObjectId) : Accepts classes .into [.object target] (.into target)

end StyledCall

namespace CallRule
variable {classes : ClassTable} {style : FetchStyle} {args : List Argument}

theorem rank_injective {rule rule' : CallRule} (same : rule.rank = rule'.rank) : rule = rule' := by
  cases rule <;> cases rule' <;> simp [rank] at same ⊢

theorem FirstBroken.unique {rule rule' : CallRule} (first : rule.FirstBroken classes style args)
    (first' : rule'.FirstBroken classes style args) : rule = rule' := by
  apply rank_injective
  apply Nat.le_antisymm
  · exact Nat.not_lt.mp fun earlier => first.2 rule' earlier first'.1
  · exact Nat.not_lt.mp fun earlier => first'.2 rule earlier first.1

end CallRule

namespace FetchStyle
variable {style : FetchStyle}

theorem limits_of_plain (bare : style.needsMore = false) : style.fewest = 0 ∧ style.most = 0 := by
  cases style <;> simp [needsMore, fewest, most] at bare ⊢

theorem wantsClass_late (late : Bool) : (if late then ofClassLate else ofClass).wantsClass = true := by
  cases late <;> rfl

theorem limits_of_class (class_ : style.wantsClass = true) : style.fewest = 1 ∧ style.most = 2 := by
  cases style <;> simp [wantsClass, fewest, most] at class_ ⊢

theorem ne_into_of_class (class_ : style.wantsClass = true) : style ≠ into := by
  rintro rfl
  cases class_

end FetchStyle

namespace StyledCall
open CallRule
variable {call : StyledCall} {classes : ClassTable} {objects : ObjectStore} {style : FetchStyle}
  {args : List Argument} {mode : FetchMode} {rule : CallRule} {e e' : Error}

/-! ## Calls that are accepted -/

theorem needsMore_of_ofStyle? (bare : FetchMode.ofStyle? style = some mode) :
    style.needsMore = false := by
  cases style <;> cases bare <;> rfl

theorem Accepts.style_eq (accepts : Accepts classes style args mode) : mode.style = style := by
  cases accepts with
  | plain bare => cases style <;> cases bare <;> rfl
  | ofClass styled known arguments constructed => exact styled.symm
  | into target => rfl

theorem given?_length {more : List Argument} {given : List Value}
    (arguments : Argument.given? more = some given) : more.length ≤ 1 := by
  match more with
  | [] => exact Nat.zero_le 1
  | [_] => exact Nat.le_refl 1
  | _ :: _ :: _ => simp [Argument.given?] at arguments

/-- Arguments that a constructor is given are no reason to refuse the second argument for its type. -/
theorem given?_keeps {arg : Argument} {more : List Argument} {given : List Value}
    (arguments : Argument.given? more = some given) :
    ¬ CallRule.argumentsType.Broken classes style (arg :: more) := by
  rintro ⟨-, second, there, notNull, notList⟩
  match more, there with
  | [.scalar .null], rfl => exact notNull rfl
  | [.array vs], rfl => exact notList vs rfl
  | [.scalar (.bool _)], _ | [.scalar (.int _)], _ | [.scalar (.float _)], _
  | [.scalar (.text _)], _ | [.object _], _ => simp [Argument.given?] at arguments

theorem given?_some {more : List Argument} {given : List Value}
    (arguments : Argument.given? more = some given) (some : given ≠ []) : more = [.array given] := by
  match more with
  | [] | [.scalar .null] => exact absurd (Option.some_inj.mp arguments).symm some
  | [.array vs] => rw [Option.some_inj.mp arguments]
  | [.scalar (.bool _)] | [.scalar (.int _)] | [.scalar (.float _)] | [.scalar (.text _)]
  | [.object _] | _ :: _ :: _ => simp [Argument.given?] at arguments

section Class
variable {text : String} {more : List Argument} {given : List Value} {c : ObjectClass} {arg : Argument}

theorem count_kept (class_ : style.wantsClass = true) (few : more.length ≤ 1) :
    ¬ CallRule.count.Broken classes style (arg :: more) := by
  obtain ⟨fewest, most⟩ := FetchStyle.limits_of_class class_
  rw [Broken, fewest, most, List.length_cons]
  omega

/-- With the name of a known class no rule about the first argument is broken. -/
theorem kept_of_known (class_ : style.wantsClass = true) (few : more.length ≤ 1)
    (known : classes.find? text = some c) (before : rule.rank < argumentsType.rank) :
    ¬ rule.Broken classes style (.scalar (.text text) :: more) := by
  cases rule with
  | count => exact count_kept class_ few
  | firstType => simp [Broken, FetchStyle.ne_into_of_class class_]
  | classKnown => simp [Broken, known]
  | argumentsType | constructorPresent => simp [rank] at before

/-- With arguments for a constructor behind it only the constructor can be missing. -/
theorem kept_of_given (class_ : style.wantsClass = true) (known : classes.find? text = some c)
    (arguments : Argument.given? more = some given) (before : rule.rank < constructorPresent.rank) :
    ¬ rule.Broken classes style (.scalar (.text text) :: more) := by
  cases rule with
  | argumentsType => exact given?_keeps arguments
  | constructorPresent => exact absurd before (Nat.lt_irrefl _)
  | count | firstType | classKnown =>
    exact kept_of_known class_ (given?_length arguments) known (by decide)

end Class

theorem Accepts.not_broken (accepts : Accepts classes style args mode) (rule : CallRule) :
    ¬ rule.Broken classes style args := by
  cases accepts with
  | plain bare =>
    obtain ⟨fewest, most⟩ := FetchStyle.limits_of_plain (needsMore_of_ofStyle? bare)
    cases rule <;> simp [Broken, fewest, most]
  | into target =>
    cases rule <;> simp [Broken, FetchStyle.fewest, FetchStyle.most, FetchStyle.wantsClass]
  | @ofClass _ text more given late c styled known arguments constructed =>
    have class_ : style.wantsClass = true := styled ▸ FetchStyle.wantsClass_late late
    cases rule with
    | count | firstType | classKnown | argumentsType =>
      exact kept_of_given class_ known arguments (by decide)
    | constructorPresent =>
      rintro ⟨-, name, c', vs, named, known', there, some, without⟩
      cases named
      obtain rfl : c' = c := Option.some_inj.mp (known'.symm.trans known)
      match more, there with
      | [.array _], rfl =>
        obtain rfl : vs = given := Option.some_inj.mp arguments
        rw [constructed some] at without
        cases without

/-- A style with its arguments stands for one mode. -/
theorem Accepts.unique {mode' : FetchMode} (accepts : Accepts classes style args mode)
    (accepts' : Accepts classes style args mode') : mode = mode' := by
  cases accepts with
  | plain bare => cases accepts' with | plain bare' => exact Option.some_inj.mp (bare.symm.trans bare')
  | into target => cases accepts' with | into => rfl
  | @ofClass _ text more given late c styled known arguments =>
    cases accepts' with
    | @ofClass _ _ _ given' late' c' styled' known' arguments' =>
      obtain rfl : late = late' := by cases late <;> cases late' <;> simp_all
      obtain rfl : c = c' := Option.some_inj.mp (known.symm.trans known')
      obtain rfl : given = given' := Option.some_inj.mp (arguments.symm.trans arguments')
      rfl

theorem accepts_of_plainMode {plain : FetchMode} (bare : FetchMode.ofStyle? style = some plain)
    (accepted : call.plainMode plain args = .ok mode) : Accepts classes style args mode := by
  obtain ⟨rfl, rfl⟩ := plainMode_accepted accepted
  exact .plain bare

theorem accepts_of_classMode {late : Bool} (styled : style = if late then .ofClassLate else .ofClass)
    (accepted : call.classMode classes objects late args = .ok mode) :
    Accepts classes style args mode := by
  obtain ⟨text, more, c, given, rfl, known, arguments, rfl, constructed⟩ := classMode_eq_ok accepted
  exact .ofClass styled known arguments constructed

theorem accepts_of_modeOf (accepted : call.modeOf classes objects style args = .ok mode) :
    Accepts classes style args mode := by
  cases style with
  | ofClass => exact accepts_of_classMode rfl accepted
  | ofClassLate => exact accepts_of_classMode rfl accepted
  | into =>
    obtain ⟨target, rfl, rfl⟩ := intoMode_accepted accepted
    exact .into target
  | both => exact accepts_of_plainMode rfl accepted
  | num => exact accepts_of_plainMode rfl accepted
  | assoc => exact accepts_of_plainMode rfl accepted
  | named => exact accepts_of_plainMode rfl accepted
  | object => exact accepts_of_plainMode rfl accepted

/-! ## Calls that are refused -/

theorem Blames.unique (blames : Blames call objects style args rule e)
    (blames' : Blames call objects style args rule e') : e = e' := by
  cases blames with
  | count bound limit allowed violated =>
    cases blames' with
    | count bound' limit' allowed' violated' =>
      -- too few and too many exclude each other, and an exact bound leaves no room for either
      have same : bound = bound' ∧ limit = limit' := by
        cases bound <;> cases bound' <;>
          simp only [CountBound.IsLimit, CountBound.Violated] at allowed allowed' violated violated' <;>
          simp <;> omega
      rw [same.1, same.2]
  | firstType there =>
    cases blames' with
    | firstType there' => rw [Option.some_inj.mp (there.symm.trans there')]
  | classKnown => cases blames' with | classKnown => rfl
  | argumentsType there =>
    cases blames' with
    | argumentsType there' => rw [Option.some_inj.mp (there.symm.trans there')]
  | constructorPresent => cases blames' with | constructorPresent => rfl

/-- The first rule that is broken, with the error that blames it. -/
def Refuses (call : StyledCall) (classes : ClassTable) (objects : ObjectStore) (style : FetchStyle)
    (args : List Argument) (e : Error) : Prop :=
  ∃ rule : CallRule, rule.FirstBroken classes style args ∧ Blames call objects style args rule e

theorem refuses_of_plainMode {plain : FetchMode} (bare : style.needsMore = false)
    (refused : call.plainMode plain args = .error e) : Refuses call classes objects style args e := by
  obtain ⟨fewest, most⟩ := FetchStyle.limits_of_plain bare
  rw [plainMode] at refused
  split at refused
  · cases refused
  next some =>
    cases refused
    have many : 0 < args.length := List.length_pos_iff.mpr (by simpa using some)
    refine ⟨.count, ⟨.inr (by rwa [most]), by simp [rank]⟩, ?_⟩
    exact .count .exactly 0 ⟨fewest, most⟩
      (by simp only [CountBound.Violated]; omega)

theorem refuses_of_intoMode (refused : call.intoMode objects args = .error e) :
    Refuses call classes objects .into args e := by
  rw [intoMode.eq_def] at refused
  split at refused
  · cases refused
  next other notObject =>
    cases refused
    refine ⟨.firstType, ⟨⟨other, rfl, .inr ⟨rfl, notObject⟩⟩, fun earlier before => ?_⟩, .firstType rfl⟩
    obtain rfl : earlier = .count := rank_injective (Nat.lt_one_iff.mp before)
    simp [Broken, FetchStyle.fewest, FetchStyle.most]
  next notOne notOther =>
    cases refused
    have other : args.length ≠ 1 := by
      intro one
      obtain ⟨arg, rfl⟩ := List.length_eq_one_iff.mp one
      exact notOther arg rfl
    refine ⟨.count, ⟨?_, by simp [rank]⟩, ?_⟩
    · simp only [Broken, FetchStyle.fewest, FetchStyle.most]
      omega
    · exact .count .exactly 1 ⟨rfl, rfl⟩
        (by simp only [CountBound.Violated]; omega)

/-- The first argument of a class mode is refused if it is no text, or a text that names no class. -/
theorem refuses_of_classArgument {arg : Argument} {more : List Argument}
    (class_ : style.wantsClass = true) (counted : ¬ CallRule.count.Broken classes style (arg :: more))
    (refused : call.classArgument classes objects arg = .error e) :
    Refuses call classes objects style (arg :: more) e := by
  have notInto := FetchStyle.ne_into_of_class class_
  rw [classArgument.eq_def] at refused
  split at refused
  next name =>
    split at refused
    · cases refused
    next unknown =>
      cases refused
      refine ⟨.classKnown, ⟨⟨class_, name, rfl, unknown⟩, fun earlier before => ?_⟩, .classKnown⟩
      cases earlier with
      | count => exact counted
      | firstType => simp [Broken, notInto]
      | classKnown | argumentsType | constructorPresent => simp [rank] at before
  next notText =>
    cases refused
    refine ⟨.firstType, ⟨⟨arg, rfl, .inl ⟨class_, notText⟩⟩, fun earlier before => ?_⟩, ?_⟩
    · obtain rfl : earlier = .count := rank_injective (Nat.lt_one_iff.mp before)
      exact counted
    · have blames : Blames call objects style (arg :: more) .firstType _ := .firstType rfl
      rwa [FetchStyle.firstType, if_neg notInto] at blames

theorem constructorArguments_refused {arg : Argument} {more : List Argument}
    (class_ : style.wantsClass = true)
    (refused : call.constructorArguments objects more.head? = .error e) :
    CallRule.argumentsType.Broken classes style (arg :: more) ∧
      Blames call objects style (arg :: more) .argumentsType e := by
  rw [constructorArguments.eq_def] at refused
  split at refused
  · cases refused
  · cases refused
  · cases refused
  next other notNull notList there =>
    cases refused
    have second : (arg :: more)[1]? = some other := by
      rw [List.getElem?_cons_succ, ← List.head?_eq_getElem?, there]
    exact ⟨⟨class_, other, second, notNull, notList⟩, .argumentsType second⟩

theorem refuses_of_classMode {late : Bool} (class_ : style.wantsClass = true)
    (refused : call.classMode classes objects late args = .error e) :
    Refuses call classes objects style args e := by
  obtain ⟨fewest, most⟩ := FetchStyle.limits_of_class class_
  have ranged : style.fewest < style.most := by omega
  have noEarlier (earlier : CallRule) (before : earlier.rank < CallRule.count.rank) :
      ¬ earlier.Broken classes style args := absurd before (Nat.not_lt_zero _)
  rw [classMode.eq_def] at refused
  split at refused
  next =>
    cases refused
    exact ⟨.count, ⟨.inl (by simp [fewest]), noEarlier⟩,
      .count .atLeast 1 ⟨fewest, ranged⟩ (by simp [CountBound.Violated])⟩
  next nameArg more =>
    split at refused
    next many =>
      cases refused
      exact ⟨.count, ⟨.inr (by rw [most, List.length_cons]; omega), noEarlier⟩,
        .count .atMost 2 ⟨most, ranged⟩
          (by rw [CountBound.Violated, List.length_cons]; omega)⟩
    next few =>
      have few := Nat.not_lt.mp few
      cases named : call.classArgument classes objects nameArg with
      | error e' =>
        rw [named] at refused
        cases refused
        exact refuses_of_classArgument class_ (count_kept class_ few) named
      | ok c =>
        obtain ⟨text, rfl, known⟩ := classArgument_accepted named
        rw [named] at refused
        cases made : call.constructorArguments objects more.head? with
        | error e' =>
          rw [made] at refused
          cases refused
          obtain ⟨broken, blames⟩ := constructorArguments_refused class_ made
          exact ⟨.argumentsType, ⟨broken, fun _ => kept_of_known class_ few known⟩, blames⟩
        | ok given =>
          have arguments := constructorArguments_accepted few made
          rw [made] at refused
          change (if (!given.isEmpty && !c.hasConstructor) = true then _ else _) = _ at refused
          split at refused
          next without =>
            cases refused
            obtain ⟨some, without⟩ : given ≠ [] ∧ c.hasConstructor = false := by simpa using without
            obtain rfl := given?_some arguments some
            exact ⟨.constructorPresent,
              ⟨⟨class_, text, c, given, rfl, known, rfl, some, without⟩,
                fun _ => kept_of_given class_ known arguments⟩,
              .constructorPresent⟩
          next => cases refused

/-- A call that is refused is refused for the first rule that it breaks. -/
theorem refuses_of_modeOf (refused : call.modeOf classes objects style args = .error e) :
    Refuses call classes objects style args e := by
  cases style with
  | ofClass => exact refuses_of_classMode rfl refused
  | ofClassLate => exact refuses_of_classMode rfl refused
  | into => exact refuses_of_intoMode refused
  | both => exact refuses_of_plainMode rfl refused
  | num => exact refuses_of_plainMode rfl refused
  | assoc => exact refuses_of_plainMode rfl refused
  | named => exact refuses_of_plainMode rfl refused
  | object => exact refuses_of_plainMode rfl refused

/-! ## What decides -/

/-- A call with a style is accepted if it breaks no rule, and chooses the mode that the style with its
arguments stands for. Otherwise it is refused for the first rule that it breaks, with the error that says
what breaks it. -/
theorem chooseMode_follows_rules (call : StyledCall) (classes : ClassTable) (objects : ObjectStore)
    (style : FetchStyle) (args : List Argument) :
    ((∃ chosen, call.chooseMode classes objects (some style) args = .ok chosen) ↔
      ∀ rule : CallRule, ¬ rule.Broken classes style args) ∧
    (∀ chosen, call.chooseMode classes objects (some style) args = .ok chosen ↔
      ∃ mode, chosen = some mode ∧ mode.style = style ∧ Accepts classes style args mode) ∧
    ∀ e, call.chooseMode classes objects (some style) args = .error e ↔
      ∃ rule : CallRule, rule.FirstBroken classes style args ∧
        Blames call objects style args rule e := by
  rw [chooseMode]
  cases made : call.modeOf classes objects style args with
  | ok mode =>
    have accepts := accepts_of_modeOf made
    refine ⟨iff_of_true ⟨_, rfl⟩ accepts.not_broken, fun chosen => ⟨?_, ?_⟩, fun e => iff_of_false ?_ ?_⟩
    · rintro ⟨⟩
      exact ⟨mode, rfl, accepts.style_eq, accepts⟩
    · rintro ⟨mode', rfl, -, accepts'⟩
      rw [accepts.unique accepts']
      rfl
    · rintro ⟨⟩
    · rintro ⟨rule, first, -⟩
      exact absurd first.1 (accepts.not_broken rule)
  | error e =>
    obtain ⟨rule, first, blames⟩ := refuses_of_modeOf made
    refine ⟨iff_of_false ?_ fun none => absurd first.1 (none rule), fun chosen => iff_of_false ?_ ?_,
      fun e' => ⟨?_, ?_⟩⟩
    · rintro ⟨chosen, ⟨⟩⟩
    · rintro ⟨⟩
    · rintro ⟨mode, -, -, accepts⟩
      exact absurd first.1 (accepts.not_broken rule)
    · rintro ⟨⟩
      exact ⟨rule, first, blames⟩
    · rintro ⟨rule', first', blames'⟩
      obtain rfl := first.unique first'
      rw [blames.unique blames']
      rfl

/-- The style is the second argument of a query, so that a class mode has four at most. The first rule
is broken, and the class is not looked at. -/
example : query.chooseMode .standard .empty (some .ofClass)
    [.scalar (.int 1), .scalar .null, .scalar .null] = .error (.count ⟨.query, .atMost, 4, 5⟩) := rfl

end StyledCall
end SqlBridge
