import SqlBridge.Class.Script
import SqlBridge.Engine.Recording
import SqlBridge.Proofs.Session.Command
import SqlBridge.Proofs.Session.Reading

/-! # Rows are handed out once and in order

Sequences of calls pass the rows of a loaded statement one by one from the first
on. Every row that is passed is handed out, but for those that a failed fetch of
all rows had laid out already: an example shows how the first row gets lost.
-/

namespace SqlBridge.Session
variable {σ : Type} {eng : Engine σ} {s : Session σ} {name : String} {rows : List Row} {i : Nat}

namespace Command

/-- The calls that read from a statement, and the settings that they depend on. -/
def reads (name : String) : Command → Bool
  | fetch of _ | fetchAll of _ | fetchColumn of _ | setFetchMode of _ _ => of = name
  | setAttribute _ _ _ => true
  | _ => false

def delivered : (command : Command) → command.Reply → List Delivery
  | fetch _ _, some (.ok (some row)) => [.row row]
  | fetchAll _ _, some (.ok fetched) => fetched.map .row
  | fetchColumn _ _, some (some v) => [.column v]
  | _, _ => []

def failsAll : (command : Command) → command.Reply → Bool
  | fetchAll _ _, some (.error _) => true
  | _, _ => false

end Command

def deliveries (eng : Engine σ) : List Command → Session σ → List Delivery
  | [], _ => []
  | command :: rest, s =>
    command.delivered (command.perform eng s).1 ++ deliveries eng rest (command.perform eng s).2

def anyFailsAll (eng : Engine σ) : List Command → Session σ → Bool
  | [], _ => false
  | command :: rest, s =>
    command.failsAll (command.perform eng s).1 || anyFailsAll eng rest (command.perform eng s).2

/-- What the caller is handed of the rows that are passed. -/
def handedOut (taken : List (Passing σ)) : List Delivery := (taken.filter (·.handed)).map (·.made)

theorem handedOut_laid (laid : List (Session σ × FetchedRow)) (handed : Bool) :
    handedOut (laid.map fun p => ⟨p.1, .row p.2, handed⟩) =
      if handed then laid.map fun p => .row p.2 else [] := by
  induction laid with
  | nil => cases handed <;> rfl
  | cons p laid ih =>
    cases handed with
    | true => exact congrArg (Delivery.row p.2 :: ·) ih
    | false => exact ih

/-- The account of a command that finds the row of the given number as the current one. -/
def Accounts (eng : Engine σ) (name : String) (rows : List Row) (s : Session σ) (i : Nat)
    (taken : List (Passing σ)) : (command : Command) → command.Reply × Session σ → Prop
  | .fetch _ mode, after => Fetches eng name mode rows s i after.1 taken
  | .fetchAll _ mode, after => FetchesRows eng name mode rows s i (rows.length - i) after taken
  | .fetchColumn _ k, after => FetchesColumn name k rows s i after.1 taken
  | _, _ => taken = []

namespace Accounts
variable {command : Command} {after : command.Reply × Session σ} {taken : List (Passing σ)}

theorem handedOut_eq (account : Accounts eng name rows s i taken command after) :
    handedOut taken = command.delivered after.1 := by
  obtain ⟨reply, s'⟩ := after
  cases command with
  | fetch of mode => cases (account : Fetches eng name mode rows s i reply taken) <;> rfl
  | fetchColumn of k => cases (account : FetchesColumn name k rows s i reply taken) <;> rfl
  | fetchAll of mode =>
    cases account with
    | all run number replied =>
      obtain rfl : reply = some (.ok _) := replied
      rw [handedOut_laid, if_pos rfl, Command.delivered, List.map_map]
      rfl
    | failed run current failing replied left =>
      obtain rfl : reply = some (.error _) := replied
      exact handedOut_laid _ false
  | _ =>
    obtain rfl : taken = [] := account
    rfl

/-- Only a fetch of all rows that fails passes rows without handing them out. -/
theorem failsAll (account : Accounts eng name rows s i taken command after) {p : Passing σ}
    (mem : p ∈ taken) (lost : p.handed = false) : command.failsAll after.1 = true := by
  obtain ⟨reply, s'⟩ := after
  cases command with
  | fetch of mode =>
    cases (account : Fetches eng name mode rows s i reply taken) <;> simp_all
  | fetchColumn of k =>
    cases (account : FetchesColumn name k rows s i reply taken) <;> simp_all
  | fetchAll of mode =>
    cases account with
    | all run number replied =>
      obtain ⟨_, -, rfl⟩ := List.mem_map.mp mem
      cases lost
    | failed run current failing replied left =>
      obtain rfl : reply = some (.error _) := replied
      rfl
  | _ =>
    obtain rfl : taken = [] := account
    cases mem

end Accounts

theorem perform_accounts (eng : Engine σ) {command : Command} (reading : command.reads name = true)
    (here : s.StandsAt name rows i) (within : i ≤ rows.length) :
    ∃ taken, Accounts eng name rows s i taken command (command.perform eng s) ∧
      Passes eng name rows i taken (command.perform eng s).2 := by
  cases command with
  | fetch of mode =>
    obtain rfl : of = name := of_decide_eq_true reading
    exact fetch_fetches eng here within mode
  | fetchAll of mode =>
    obtain rfl : of = name := of_decide_eq_true reading
    exact fetchAll_fetches eng here within mode
  | fetchColumn of k =>
    obtain rfl : of = name := of_decide_eq_true reading
    exact fetchColumn_fetches eng here within k
  | setFetchMode of style args =>
    obtain rfl : of = name := of_decide_eq_true reading
    exact ⟨[], rfl, .nil within (setFetchMode_stays here style args)⟩
  | setAttribute connection attr v =>
    exact ⟨[], rfl, .nil within (onConnection_stays here connection _)⟩
  | _ => cases reading

/-- The account of a run of commands, each of them from where the one before it ended. -/
inductive RunAccount (eng : Engine σ) (name : String) (rows : List Row) :
    List Command → Session σ → Nat → List (Passing σ) → Prop
  | nil {s : Session σ} {i : Nat} : RunAccount eng name rows [] s i []
  | cons {command : Command} {rest : List Command} {s : Session σ} {i : Nat}
      {taken more : List (Passing σ)}
      (first : Accounts eng name rows s i taken command (command.perform eng s))
      (others : RunAccount eng name rows rest (command.perform eng s).2 (i + taken.length) more) :
      RunAccount eng name rows (command :: rest) s i (taken ++ more)

namespace RunAccount
variable {commands : List Command} {taken : List (Passing σ)}

theorem handedOut_eq (account : RunAccount eng name rows commands s i taken) :
    handedOut taken = deliveries eng commands s := by
  induction account with
  | nil => rfl
  | cons first others ih =>
    rw [deliveries, ← first.handedOut_eq, ← ih]
    simp [handedOut]

theorem anyFailsAll (account : RunAccount eng name rows commands s i taken) {p : Passing σ}
    (mem : p ∈ taken) (lost : p.handed = false) : anyFailsAll eng commands s = true := by
  induction account with
  | nil => cases mem
  | cons first others ih =>
    rw [Session.anyFailsAll, Bool.or_eq_true]
    exact (List.mem_append.mp mem).imp (fun mem => first.failsAll mem lost) ih

end RunAccount

theorem performAll_accounts (eng : Engine σ) {commands : List Command}
    (reading : ∀ command ∈ commands, command.reads name = true)
    (here : s.StandsAt name rows i) (within : i ≤ rows.length) :
    ∃ taken, RunAccount eng name rows commands s i taken ∧
      Passes eng name rows i taken (performAll eng commands s).2 := by
  induction commands generalizing s i with
  | nil => exact ⟨[], .nil, .nil within here⟩
  | cons command rest ih =>
    obtain ⟨taken, first, passes⟩ := perform_accounts eng (reading command (by simp)) here within
    obtain ⟨more, others, passes'⟩ :=
      ih (fun command mem => reading command (by simp [mem])) passes.stands passes.within
    exact ⟨taken ++ more, .cons first others, passes.append passes'⟩

/-- What each call does next, where the row of the given number is the current one. -/
structure NextCalls (eng : Engine σ) (name : String) (s : Session σ) (rows : List Row) (i : Nat) :
    Prop where
  /-- The current row is handed out if it can be laid out, and stays the current one if not. -/
  fetch : ∀ st state row mode, s.statement? name = some (st, state) → rows[i]? = some row →
    let outcome := layoutOf eng s state row (st.statement.fetchMode state mode)
    (fetch eng name mode s).1 = some (outcome.map some) ∧
      (fetch eng name mode s).2.StandsAt name rows (if outcome.isOk then i + 1 else i)
  fetchColumn : ∀ k, ∃ taken, FetchesColumn name k rows s i (fetchColumn name k s).1 taken ∧
    Passes eng name rows i taken (fetchColumn name k s).2
  fetchAll : ∀ mode, ∃ taken,
    FetchesRows eng name mode rows s i (rows.length - i) (fetchAll eng name mode s) taken ∧
    Passes eng name rows i taken (fetchAll eng name mode s).2
  setFetchMode : ∀ style args, (setFetchMode name style args s).2.StandsAt name rows i
  setAttribute : ∀ connection attr v,
    (onConnection connection (Connection.setAttribute attr v) s).2.StandsAt name rows i
  /-- After the last row there is nothing to fetch, and nothing happens. -/
  ended : i = rows.length → ∀ mode k,
    ((Session.fetch eng name mode s).1 = some (.ok none) ∧
      (Session.fetch eng name mode s).2.StandsAt name rows i) ∧
    ((Session.fetchColumn name k s).1 = some none ∧
      (Session.fetchColumn name k s).2.StandsAt name rows i) ∧
    (Session.fetchAll eng name mode s).1 = some (.ok []) ∧
      (Session.fetchAll eng name mode s).2.StandsAt name rows i

theorem nextCalls (here : s.StandsAt name rows i) (within : i ≤ rows.length) :
    NextCalls eng name s rows i where
  fetch st state row mode found current := by
    obtain ⟨st', state', found', rfl, rfl⟩ := here
    cases found.symm.trans found'
    exact fetch_current found current mode
  fetchColumn := fetchColumn_fetches eng here within
  fetchAll := fetchAll_fetches eng here within
  setFetchMode := setFetchMode_stays here
  setAttribute connection attr v := onConnection_stays here connection _
  ended last mode k := by
    obtain ⟨st, state, found, rfl, rfl⟩ := id here
    have ended : st.statement.current? = none := List.getElem?_eq_none (Nat.le_of_eq last.symm)
    have left : st.statement.remaining = 0 := by
      rw [Statement.remaining, last, Nat.sub_self]
    refine ⟨fetch_ended found ended mode, ?_, ?_⟩
    · rw [fetchColumn_found found, Statement.fetchColumn, ended]
      exact ⟨rfl, standsAt_put found (.refl s) s.objects st.statement rfl⟩
    · rw [fetchAll_found (statement?_eq_some.mp found).1, left]
      exact ⟨rfl, here⟩

/-- From a loaded result on, whatever is fetched in whatever order and with whatever settings, the
rows that are passed are the first ones, each of them once and in order. What is made of a row is
made of it in the session in which it was the current one. The calls hand out what is made of these
rows, in their order, but for the rows that a failed fetch of all rows had laid out before it came to
the one that it failed on. The cursor stays within the rows, and what each call does next depends on
the current row alone. -/
theorem rows_handed_out_in_order (eng : Engine σ) {commands : List Command}
    (loaded : s.StandsAt name rows 0)
    (reading : ∀ command ∈ commands, command.reads name = true) :
    let s' := (performAll eng commands s).2
    ∃ taken : List (Passing σ),
      RunAccount eng name rows commands s 0 taken ∧
      taken.length ≤ rows.length ∧ s'.StandsAt name rows taken.length ∧
      (∀ (k : Nat) (p : Passing σ), taken[k]? = some p → p.IsOf eng name rows k) ∧
      handedOut taken = deliveries eng commands s ∧
      (∀ p ∈ taken, p.handed = false → anyFailsAll eng commands s = true) ∧
      NextCalls eng name s' rows taken.length := by
  obtain ⟨taken, account, isOf, within, stands⟩ :=
    performAll_accounts eng reading loaded (Nat.zero_le _)
  simp only [Nat.zero_add] at isOf within stands
  exact ⟨taken, account, within, stands, isOf, account.handedOut_eq,
    fun p mem lost => account.anyFailsAll mem lost, nextCalls stands within⟩

/-- Only the mode of plain lists gives a list, and that has the values of the row. -/
theorem list_of_laysOut {mode : Option FetchMode} {row : Row} {vs : List Value}
    (laid : LaysOut eng s name mode row (.ok (.list vs))) :
    ∃ stringify, vs = row.pairs.map fun p => Layout.present stringify p.2 := by
  obtain ⟨st, state, -, -, same⟩ := laid
  generalize st.statement.fetchMode state mode = mode at same
  cases mode with
  | num =>
    cases same
    exact ⟨_, by rw [Layout.columnPairs, List.map_map]; rfl⟩
  | ofClass className args late =>
    cases known : state.layoutSettings.classes.find? className with
    | none =>
      simp only [layoutOf, layOut, known] at same
      cases same
    | some c =>
      simp only [layoutOf, layOut, known, Callout.run_map] at same
      generalize ((Layout.ofClass c args late _).run _ _).1 = built at same
      cases built <;> cases same
  | both => cases same
  | assoc => cases same
  | named => cases same
  | object => cases same
  | into target => cases same

def numbers : List Row := [1, 2, 3].map fun n => ⟨.ofTypes ["n"] [], [.int n]⟩

/-- A session with a loaded statement, on a connection that knows a class whose constructor begins a
transaction. -/
def beginning : Session Recording :=
  let begins : ObjectClass := ⟨"P", some (.ofActions [.set "t" (.request "c" .begin)])⟩
  let options : ConnectionOptions :=
    { ConnectionOptions.standard with stringify := false, classes := .insert .standard begins }
  { start (.ofEvents [.done]) with
    live := .insert .empty 0 ⟨⟨0⟩, .ofOptions options⟩
    connections := .insert .empty "c" ⟨0, .empty⟩
    statements := .insert .empty "s" ⟨0, { Statement.ofSql "" none with rows := numbers }⟩
    nextId := 1 }

theorem beginning_loaded : beginning.StandsAt "s" numbers 0 := ⟨_, _, rfl, rfl, rfl⟩

/-- Fetch all rows as objects of that class, and then one row as a list. -/
def beginTwice : List Command :=
  [.fetchAll "s" (some (.ofClass "P" [] false)), .fetch "s" (some .num)]

theorem beginTwice_reads : ∀ command ∈ beginTwice, command.reads "s" = true := by
  simp [beginTwice, Command.reads]

theorem deliveries_beginTwice :
    deliveries Recording.engine beginTwice beginning = [.row (.list [.int 2])] := by
  rfl

theorem cursor_beginTwice :
    ((performAll Recording.engine beginTwice beginning).2.statement? "s").map
      (·.1.statement.cursor) = some 2 := by
  decide +kernel

/-- The constructor succeeds for the first row and fails for the second, which is handed out next. -/
theorem rows_handed_out_in_order_beginning :
    beginning.StandsAt "s" numbers 0 ∧ (∀ command ∈ beginTwice, command.reads "s" = true) ∧
    ∃ taken, RunAccount Recording.engine "s" numbers beginTwice beginning 0 taken ∧
      taken.length = 2 ∧ handedOut taken = [.row (.list [.int 2])] := by
  obtain ⟨taken, account, -, stands, -, handed, -, -⟩ :=
    rows_handed_out_in_order Recording.engine beginning_loaded beginTwice_reads
  exact ⟨beginning_loaded, beginTwice_reads, taken, account, stands.cursor_eq cursor_beginTwice,
    handed.trans deliveries_beginTwice⟩

/-- The first row that these commands hand out is not the first row of the result. -/
theorem first_row_lost :
    beginning.StandsAt "s" numbers 0 ∧ (∀ command ∈ beginTwice, command.reads "s" = true) ∧
    ∃ d, (deliveries Recording.engine beginTwice beginning)[0]? = some d ∧
      ¬∃ t row, numbers[0]? = some row ∧ d.IsOf Recording.engine t "s" row := by
  refine ⟨beginning_loaded, beginTwice_reads, .row (.list [.int 2]), ?_, ?_⟩
  · rw [deliveries_beginTwice]
    rfl
  · rintro ⟨t, row, first, mode, made⟩
    cases first
    obtain ⟨stringify, same⟩ := list_of_laysOut made
    cases stringify <;> cases same

end SqlBridge.Session
