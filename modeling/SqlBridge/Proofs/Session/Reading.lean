import SqlBridge.Proofs.Session.Fetch

/-! # What the calls of a statement hand out

Four calls read the rows of a statement's last run through one cursor, with
constructors of the caller at work in the middle of a fetch. What each of them
does to the cursor is said here, together with the rows that it passes. Rows
that are fetched together with one that fails are passed, but nobody gets them.
-/

namespace SqlBridge.Session
variable {σ α : Type} {eng : Engine σ} {s s' : Session σ} {name : String} {rows : List Row}
  {i j : Nat}

/-- The statement of a name has these rows and is going to hand out the row of this number. -/
def StandsAt (s : Session σ) (name : String) (rows : List Row) (i : Nat) : Prop :=
  ∃ st state, s.statement? name = some (st, state) ∧ st.statement.rows = rows ∧
    st.statement.cursor = i

theorem StandsAt.cursor_eq (here : s.StandsAt name rows i)
    (cursor : (s.statement? name).map (·.1.statement.cursor) = some j) : i = j := by
  obtain ⟨st, state, found, -, rfl⟩ := here
  rw [found] at cursor
  exact Option.some.inj cursor

/-- What becomes of a row in a mode, with the settings of the given connection state. -/
def layoutOf (eng : Engine σ) (s : Session σ) (state : Connection.State) (row : Row)
    (mode : FetchMode) : Except Error FetchedRow :=
  ((layOut state.layoutSettings row mode s.objects).run (respond eng) s).1.1

/-- What a fetch replies that lays out the current row in a mode, with the settings of the given state. -/
def replyIn (eng : Engine σ) (s : Session σ) (st : Statement) (state : Connection.State)
    (mode : FetchMode) : Except Error (Option FetchedRow) :=
  match st.current? with
  | none => .ok none
  | some row => (layoutOf eng s state row mode).map some

/-- In this session the row is the current one, and a fetch that asks for a mode lays it out with
this outcome. -/
def LaysOut (eng : Engine σ) (s : Session σ) (name : String) (mode : Option FetchMode) (row : Row)
    (outcome : Except Error FetchedRow) : Prop :=
  ∃ st state, s.statement? name = some (st, state) ∧ st.statement.current? = some row ∧
    layoutOf eng s state row (st.statement.fetchMode state mode) = outcome

/-- In this session the row is the current one, and the column of a number is shown by this value. -/
def ShowsColumn (s : Session σ) (name : String) (k : Nat) (row : Row) (v : Value) : Prop :=
  ∃ st state w, s.statement? name = some (st, state) ∧ st.statement.current? = some row ∧
    row.get? k = some w ∧ v = Layout.present state.layoutSettings.stringifies w

/-- What is made of a row: a layout of all of it, or one column. -/
inductive Delivery where
  | row (fetched : FetchedRow)
  | column (v : Value)

/-- The session makes this of the row, which is its current one. -/
def Delivery.IsOf (eng : Engine σ) (s : Session σ) (name : String) (row : Row) : Delivery → Prop
  | .row fetched => ∃ mode, LaysOut eng s name mode row (.ok fetched)
  | .column v => ∃ k, ShowsColumn s name k row v

/-- A row gets passed: in which session it was the current one, what was made of it there, and
whether the caller was handed that. -/
structure Passing (σ : Type) where
  found : Session σ
  made : Delivery
  handed : Bool

def Passing.IsOf (eng : Engine σ) (name : String) (rows : List Row) (i : Nat) (p : Passing σ) :
    Prop :=
  ∃ row, rows[i]? = some row ∧ p.found.StandsAt name rows i ∧ p.made.IsOf eng p.found name row

/-- The rows from the given number on are passed one by one, and the row after them is the current
one then. -/
structure Passes (eng : Engine σ) (name : String) (rows : List Row) (i : Nat)
    (taken : List (Passing σ)) (after : Session σ) : Prop where
  isOf : ∀ (k : Nat) (p : Passing σ), taken[k]? = some p → p.IsOf eng name rows (i + k)
  within : i + taken.length ≤ rows.length
  stands : after.StandsAt name rows (i + taken.length)

namespace Passes
variable {taken taken' : List (Passing σ)} {p : Passing σ}

theorem nil (within : i ≤ rows.length) (stands : s.StandsAt name rows i) :
    Passes eng name rows i [] s :=
  ⟨fun _ _ there => by simp at there, within, stands⟩

theorem append (first : Passes eng name rows i taken s)
    (second : Passes eng name rows (i + taken.length) taken' s') :
    Passes eng name rows i (taken ++ taken') s' where
  isOf k p there := by
    rw [List.getElem?_append] at there
    split at there
    next => exact first.isOf k p there
    next past =>
      have made := second.isOf (k - taken.length) p there
      rwa [Nat.add_assoc, Nat.add_sub_cancel' (Nat.le_of_not_lt past)] at made
  within := by
    rw [List.length_append, ← Nat.add_assoc]
    exact second.within
  stands := by
    rw [List.length_append, ← Nat.add_assoc]
    exact second.stands

theorem single (made : p.IsOf eng name rows i) (stands : s.StandsAt name rows (i + 1)) :
    Passes eng name rows i [p] s where
  isOf k q there := by
    obtain ⟨rfl, rfl⟩ : k = 0 ∧ q = p := by
      cases k <;> simp_all
    exact made
  within := by
    obtain ⟨row, current, -⟩ := made
    exact (List.getElem?_eq_some_iff.mp current).1
  stands := stands

end Passes

/-- The account of a fetch: it hands out the current row, or fails to lay it out, or finds none. -/
inductive Fetches (eng : Engine σ) (name : String) (mode : Option FetchMode) (rows : List Row)
    (s : Session σ) (i : Nat) : Option (Except Error (Option FetchedRow)) → List (Passing σ) → Prop
  | row {row : Row} {fetched : FetchedRow} (current : rows[i]? = some row)
      (laid : LaysOut eng s name mode row (.ok fetched)) :
      Fetches eng name mode rows s i (some (.ok (some fetched))) [⟨s, .row fetched, true⟩]
  | failed {row : Row} {e : Error} (current : rows[i]? = some row)
      (laid : LaysOut eng s name mode row (.error e)) :
      Fetches eng name mode rows s i (some (.error e)) []
  | ended (past : rows[i]? = none) : Fetches eng name mode rows s i (some (.ok none)) []

/-- The account of a fetch of one column: it hands out a value of the current row, or there is no
such value. -/
inductive FetchesColumn (name : String) (k : Nat) (rows : List Row) (s : Session σ) (i : Nat) :
    Option (Option Value) → List (Passing σ) → Prop
  | column {row : Row} {v : Value} (current : rows[i]? = some row)
      (shown : ShowsColumn s name k row v) :
      FetchesColumn name k rows s i (some (some v)) [⟨s, .column v, true⟩]
  | noColumn (missing : rows[i]?.bind (·.get? k) = none) :
      FetchesColumn name k rows s i (some none) []

/-- Fetches in one mode, each of them from where the one before it ended, hand out the rows from a
number on: the session that each of them finds, and what it makes of the current row there. -/
inductive FetchRun (eng : Engine σ) (name : String) (mode : Option FetchMode) (rows : List Row) :
    Session σ → Nat → List (Session σ × FetchedRow) → Session σ → Prop
  | done {s : Session σ} {i : Nat} (here : s.StandsAt name rows i) :
      FetchRun eng name mode rows s i [] s
  | fetched {s t : Session σ} {i : Nat} {row : Row} {fetched : FetchedRow}
      {laid : List (Session σ × FetchedRow)} (here : s.StandsAt name rows i)
      (current : rows[i]? = some row) (made : LaysOut eng s name mode row (.ok fetched))
      (rest : FetchRun eng name mode rows (fetch eng name mode s).2 (i + 1) laid t) :
      FetchRun eng name mode rows s i ((s, fetched) :: laid) t

/-- The account of a fetch of some number of rows. All of them are handed out, or one of them cannot
be laid out in the session that the rows before it left. Those were laid out then, and are not handed
out. -/
inductive FetchesRows (eng : Engine σ) (name : String) (mode : Option FetchMode) (rows : List Row)
    (s : Session σ) (i n : Nat) (after : Option (Except Error (List FetchedRow)) × Session σ) :
    List (Passing σ) → Prop
  | all {laid : List (Session σ × FetchedRow)}
      (run : FetchRun eng name mode rows s i laid after.2) (number : laid.length = n)
      (replied : after.1 = some (.ok (laid.map (·.2)))) :
      FetchesRows eng name mode rows s i n after (laid.map fun p => ⟨p.1, .row p.2, true⟩)
  | failed {laid : List (Session σ × FetchedRow)} {t : Session σ} {row : Row} {e : Error}
      (run : FetchRun eng name mode rows s i laid t)
      (current : rows[i + laid.length]? = some row)
      (failing : LaysOut eng t name mode row (.error e))
      (replied : after.1 = some (.error e)) (left : after.2 = (fetch eng name mode t).2) :
      FetchesRows eng name mode rows s i n after (laid.map fun p => ⟨p.1, .row p.2, false⟩)

theorem standsAt_put {st : OwnedStatement} {state : Connection.State}
    (found : s.statement? name = some (st, state)) (same : SameNames s s') (objects : ObjectStore)
    (put : Statement) (kept : put.rows = st.statement.rows) :
    StandsAt ({ s' with
      objects
      statements := s'.statements.insert name { st with statement := put } } : Session σ) name
      st.statement.rows put.cursor := by
  obtain ⟨-, c, live, -⟩ := statement?_eq_some.mp found
  obtain ⟨c', live'⟩ := Option.isSome_iff_exists.mp ((same.live st.owner).trans (by rw [live]; rfl))
  refine ⟨{ st with statement := put }, c'.state, statement?_eq_some.mpr ⟨?_, c', live', rfl⟩, kept,
    rfl⟩
  rw [OrderedMap.get?_insert, if_pos rfl]

section Calls
variable {st : OwnedStatement} {state : Connection.State}

theorem fetch_current (found : s.statement? name = some (st, state)) {row : Row}
    (current : st.statement.current? = some row) (mode : Option FetchMode) :
    let outcome := layoutOf eng s state row (st.statement.fetchMode state mode)
    (fetch eng name mode s).1 = some (outcome.map some) ∧
      StandsAt (fetch eng name mode s).2 name st.statement.rows
        (if outcome.isOk then st.statement.cursor + 1 else st.statement.cursor) := by
  let work := layOut state.layoutSettings row (st.statement.fetchMode state mode) s.objects
  have same : SameNames s (work.run (respond eng) s).2 := run_sameNames work s
  rw [fetch_found found, Statement.run_fetch, layoutOf]
  simp only [current]
  cases laid : (work.run (respond eng) s).1.1 with
  | ok fetched => exact ⟨rfl, standsAt_put found same _ st.statement.next rfl⟩
  | error e => exact ⟨rfl, standsAt_put found same _ st.statement rfl⟩

theorem fetch_ended (found : s.statement? name = some (st, state))
    (ended : st.statement.current? = none) (mode : Option FetchMode) :
    (fetch eng name mode s).1 = some (.ok none) ∧
      StandsAt (fetch eng name mode s).2 name st.statement.rows st.statement.cursor := by
  rw [fetch_found found, Statement.run_fetch]
  simp only [ended]
  exact ⟨trivial, standsAt_put found (.refl s) s.objects st.statement rfl⟩

theorem fetch_reply (found : s.statement? name = some (st, state)) (asked : Option FetchMode) :
    (fetch eng name asked s).1 =
      some (replyIn eng s st.statement state (st.statement.fetchMode state asked)) := by
  rw [replyIn]
  cases current : st.statement.current? with
  | none => exact (fetch_ended found current asked).1
  | some row => exact (fetch_current found current asked).1

theorem LaysOut.fetch {mode : Option FetchMode} {row : Row} {outcome : Except Error FetchedRow}
    (laid : LaysOut eng s name mode row outcome) (here : s.StandsAt name rows i) :
    (fetch eng name mode s).1 = some (outcome.map some) ∧
      (fetch eng name mode s).2.StandsAt name rows (if outcome.isOk then i + 1 else i) := by
  obtain ⟨st, state, found, rfl, rfl⟩ := here
  obtain ⟨st', state', found', current, rfl⟩ := laid
  cases found.symm.trans found'
  exact fetch_current found current mode

/-- A fetch hands out the current row and moves on, or leaves it the current one; at the end there
is none. -/
theorem fetch_cases (eng : Engine σ) (here : s.StandsAt name rows i) (mode : Option FetchMode) :
    (rows.length ≤ i ∧ (fetch eng name mode s).1 = some (.ok none) ∧
      (fetch eng name mode s).2.StandsAt name rows i) ∨
    ∃ row outcome, rows[i]? = some row ∧ LaysOut eng s name mode row outcome ∧
      (fetch eng name mode s).1 = some (outcome.map some) ∧
      (fetch eng name mode s).2.StandsAt name rows (if outcome.isOk then i + 1 else i) := by
  obtain ⟨st, state, found, rfl, rfl⟩ := id here
  cases current : st.statement.current? with
  | none => exact .inl ⟨List.getElem?_eq_none_iff.mp current, fetch_ended found current mode⟩
  | some row =>
    have laid : LaysOut eng s name mode row _ := ⟨st, state, found, current, rfl⟩
    exact .inr ⟨row, _, current, laid, laid.fetch here⟩

theorem fetch_fetches (eng : Engine σ) (here : s.StandsAt name rows i) (within : i ≤ rows.length)
    (mode : Option FetchMode) :
    ∃ taken, Fetches eng name mode rows s i (fetch eng name mode s).1 taken ∧
      Passes eng name rows i taken (fetch eng name mode s).2 := by
  obtain ⟨past, replied, stands⟩ | ⟨row, outcome, current, laid, replied, stands⟩ :=
    fetch_cases eng here mode
  · rw [replied]
    exact ⟨[], .ended (List.getElem?_eq_none past), .nil within stands⟩
  · rw [replied]
    cases outcome with
    | ok fetched =>
      have made : Passing.IsOf eng name rows i ⟨s, .row fetched, true⟩ :=
        ⟨row, current, here, mode, laid⟩
      exact ⟨[_], .row current laid, .single made stands⟩
    | error e => exact ⟨[], .failed current laid, .nil within stands⟩

theorem fetchColumn_fetches (eng : Engine σ) (here : s.StandsAt name rows i)
    (within : i ≤ rows.length) (k : Nat) :
    ∃ taken, FetchesColumn name k rows s i (fetchColumn name k s).1 taken ∧
      Passes eng name rows i taken (fetchColumn name k s).2 := by
  obtain ⟨st, state, found, rfl, rfl⟩ := id here
  rw [fetchColumn_found found, Statement.fetchColumn]
  cases value : st.statement.current?.bind (·.get? k) with
  | none =>
    have stands := standsAt_put found (.refl s) s.objects st.statement rfl
    exact ⟨[], .noColumn value, .nil within stands⟩
  | some w =>
    obtain ⟨row, current, value⟩ := Option.bind_eq_some_iff.mp value
    have shown : ShowsColumn s name k row (Layout.present state.layoutSettings.stringifies w) :=
      ⟨st, state, w, found, current, value, rfl⟩
    have stands := standsAt_put found (.refl s) s.objects st.statement.next rfl
    exact ⟨[_], .column current shown, .single ⟨row, current, here, k, shown⟩ stands⟩

theorem setFetchMode_stays (here : s.StandsAt name rows i) (style : FetchStyle)
    (args : List Argument) : (setFetchMode name style args s).2.StandsAt name rows i := by
  obtain ⟨st, state, found, rfl, rfl⟩ := here
  rw [setFetchMode_found found, Statement.setFetchMode]
  cases StyledCall.setFetchMode.chooseMode state.classes s.objects (some style) args with
  | ok mode =>
    exact standsAt_put found (.refl s) s.objects { st.statement with mode } rfl
  | error e => exact standsAt_put found (.refl s) s.objects st.statement rfl

theorem onConnection_stays (here : s.StandsAt name rows i) (connection : String)
    (act : StateM (Running σ) α) : (onConnection connection act s).2.StandsAt name rows i := by
  obtain ⟨st, state, found, rfl, rfl⟩ := here
  obtain ⟨named, c, live, -⟩ := statement?_eq_some.mp found
  have same := onConnection_sameNames connection act s
  obtain ⟨c', live'⟩ :=
    Option.isSome_iff_exists.mp ((same.live st.owner).trans (by rw [live]; rfl))
  exact ⟨st, c'.state, statement?_eq_some.mpr ⟨by rw [same.statements, named], c', live', rfl⟩, rfl,
    rfl⟩

namespace FetchRun
variable {mode : Option FetchMode} {laid : List (Session σ × FetchedRow)}

theorem starts (run : FetchRun eng name mode rows s i laid s') : s.StandsAt name rows i := by
  cases run with
  | done here => exact here
  | fetched here current made rest => exact here

theorem passes (run : FetchRun eng name mode rows s i laid s') (within : i ≤ rows.length)
    (handed : Bool) :
    Passes eng name rows i (laid.map fun p => ⟨p.1, .row p.2, handed⟩) s' := by
  induction run with
  | done here => exact .nil within here
  | @fetched s t i row fetched laid here current made rest ih =>
    have first : Passing.IsOf eng name rows i ⟨s, .row fetched, handed⟩ :=
      ⟨row, current, here, mode, made⟩
    have next : i + 1 ≤ rows.length := (List.getElem?_eq_some_iff.mp current).1
    exact (Passes.single first rest.starts).append (ih next)

end FetchRun

theorem FetchesRows.passes {n : Nat} {mode : Option FetchMode}
    {after : Option (Except Error (List FetchedRow)) × Session σ} {taken : List (Passing σ)}
    (fetches : FetchesRows eng name mode rows s i n after taken) (within : i ≤ rows.length) :
    Passes eng name rows i taken after.2 := by
  cases fetches with
  | all run number replied => exact run.passes within true
  | failed run current failing replied left =>
    obtain ⟨isOf, bound, stands⟩ := run.passes within false
    rw [left]
    exact ⟨isOf, bound, (failing.fetch stands).2⟩

theorem fetchUpTo_of_row {mode : Option FetchMode} {fetched : FetchedRow} (n : Nat)
    (replied : (fetch eng name mode s).1 = some (.ok (some fetched))) :
    fetchUpTo eng name mode (n + 1) s =
      let rest := fetchUpTo eng name mode n (fetch eng name mode s).2
      (rest.1.map fun result => result.map (fetched :: ·), rest.2) := by
  have fetched? : fetch eng name mode s = (some (.ok (some fetched)), (fetch eng name mode s).2) :=
    Prod.ext replied rfl
  rw [fetchUpTo_succ, fetched?]

theorem fetchUpTo_of_error {mode : Option FetchMode} {e : Error} (n : Nat)
    (replied : (fetch eng name mode s).1 = some (.error e)) :
    fetchUpTo eng name mode (n + 1) s = (some (.error e), (fetch eng name mode s).2) := by
  have fetched? : fetch eng name mode s = (some (.error e), (fetch eng name mode s).2) :=
    Prod.ext replied rfl
  rw [fetchUpTo_succ, fetched?]

/-- The rows are fetched one by one, each in the session that the one before it left. -/
theorem fetchUpTo_fetches (eng : Engine σ) (n : Nat) (here : s.StandsAt name rows i)
    (left : i + n ≤ rows.length) (mode : Option FetchMode) :
    ∃ taken, FetchesRows eng name mode rows s i n (fetchUpTo eng name mode n s) taken := by
  induction n generalizing s i with
  | zero => exact ⟨_, .all (.done here) rfl rfl⟩
  | succ n ih =>
    obtain ⟨ended, -⟩ | ⟨row, outcome, current, laid, replied, stands⟩ := fetch_cases eng here mode
    · omega
    cases outcome with
    | error e =>
      rw [fetchUpTo_of_error n replied]
      exact ⟨_, .failed (.done here) current laid rfl rfl⟩
    | ok fetched =>
      have stands : (fetch eng name mode s).2.StandsAt name rows (i + 1) := stands
      obtain ⟨taken, rest⟩ := ih stands (by omega)
      rw [fetchUpTo_of_row n replied]
      cases rest with
      | all run number replied =>
        refine ⟨_, .all (.fetched here current laid run) (by rw [List.length_cons, number]) ?_⟩
        simp [replied, Except.map]
      | failed run at_ failing replied left =>
        refine ⟨_, .failed (.fetched here current laid run) ?_ failing ?_ left⟩
        · rwa [List.length_cons, ← Nat.add_assoc, Nat.add_right_comm]
        · simp [replied, Except.map]

theorem fetchAll_fetches (eng : Engine σ) (here : s.StandsAt name rows i) (within : i ≤ rows.length)
    (mode : Option FetchMode) :
    ∃ taken, FetchesRows eng name mode rows s i (rows.length - i) (fetchAll eng name mode s) taken ∧
      Passes eng name rows i taken (fetchAll eng name mode s).2 := by
  obtain ⟨st, state, found, same, cursor⟩ := id here
  have left : st.statement.remaining = rows.length - i := by rw [Statement.remaining, same, cursor]
  rw [fetchAll_found (statement?_eq_some.mp found).1, left]
  obtain ⟨taken, fetches⟩ := fetchUpTo_fetches eng (rows.length - i) here (by omega) mode
  exact ⟨taken, fetches, fetches.passes within⟩

end Calls

end SqlBridge.Session
