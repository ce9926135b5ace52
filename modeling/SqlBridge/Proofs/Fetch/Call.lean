import SqlBridge.Fetch.Call

/-! # Refused calls

A call with a fetch style is refused for the number, the types or the values of
its arguments. None of these errors is the engine's, so none of them is subject
to the error mode.
-/

namespace SqlBridge.StyledCall
variable {call : StyledCall} {classes : ClassTable} {objects : ObjectStore} {args : List Argument}
  {e : Error}

theorem plainMode_refusal {mode : FetchMode} (refused : call.plainMode mode args = .error e) :
    e.isFromEngine = false := by
  rw [plainMode] at refused
  split at refused <;> cases refused
  rfl

theorem classArgument_refusal {arg : Argument}
    (refused : call.classArgument classes objects arg = .error e) : e.isFromEngine = false := by
  rw [classArgument.eq_def] at refused
  split at refused
  · split at refused <;> cases refused
    rfl
  · cases refused
    rfl

theorem constructorArguments_refusal {arg : Option Argument}
    (refused : call.constructorArguments objects arg = .error e) : e.isFromEngine = false := by
  rw [constructorArguments.eq_def] at refused
  split at refused <;> cases refused
  rfl

theorem classMode_refusal {late : Bool}
    (refused : call.classMode classes objects late args = .error e) : e.isFromEngine = false := by
  rw [classMode.eq_def] at refused
  split at refused
  · cases refused
    rfl
  next nameArg more =>
    split at refused
    · cases refused
      rfl
    · cases named : call.classArgument classes objects nameArg with
      | error e' =>
        rw [named] at refused
        cases refused
        exact classArgument_refusal named
      | ok c =>
        cases given : call.constructorArguments objects more.head? with
        | error e' =>
          rw [named, given] at refused
          cases refused
          exact constructorArguments_refusal given
        | ok vs =>
          rw [named, given] at refused
          change (if (!vs.isEmpty && !c.hasConstructor) = true then _ else _) = _ at refused
          split at refused <;> cases refused
          rfl

theorem intoMode_refusal (refused : call.intoMode objects args = .error e) :
    e.isFromEngine = false := by
  rw [intoMode.eq_def] at refused
  split at refused <;> cases refused <;> rfl

/-- The errors in the arguments of a call are not the engine's. -/
theorem chooseMode_refusal {style : Option FetchStyle}
    (refused : call.chooseMode classes objects style args = .error e) :
    e.isFromEngine = false := by
  cases style with
  | none => cases refused
  | some style =>
    have refused' : call.modeOf classes objects style args = .error e := by
      cases chosen : call.modeOf classes objects style args with
      | ok mode => rw [chooseMode, chosen] at refused; cases refused
      | error e' => rw [chooseMode, chosen] at refused; cases refused; rfl
    cases style with
    | ofClass => exact classMode_refusal refused'
    | ofClassLate => exact classMode_refusal refused'
    | into => exact intoMode_refusal refused'
    | both => exact plainMode_refusal refused'
    | num => exact plainMode_refusal refused'
    | assoc => exact plainMode_refusal refused'
    | named => exact plainMode_refusal refused'
    | object => exact plainMode_refusal refused'

end SqlBridge.StyledCall
