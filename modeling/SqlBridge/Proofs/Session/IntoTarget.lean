import SqlBridge.Proofs.Fetch.Assigned
import SqlBridge.Proofs.Session.Cursor
import SqlBridge.Proofs.Session.Rectangular

/-! # Filling an object of the caller

Rows that are fetched into an object are written over one another. All rows of a
result have the names of its columns, so each row takes back what the one before it
wrote, and the object ends as if there had been only the last one. This holds for
all states that a session comes to, whatever the caller does to its objects, and
whatever other statements wrote into the object before.
-/

namespace SqlBridge

namespace ObjectStore

theorem set_set (objects : ObjectStore) (ref : ObjectId) (o o' : Object) :
    (objects.set ref o).set ref o' = objects.set ref o' :=
  congrArg ObjectStore.mk (objects.objects.insert_insert ref o o')

theorem get_set_of_ne {ref ref' : ObjectId} (other : ref ≠ ref') (objects : ObjectStore) (o : Object) :
    (objects.set ref o).get ref' = objects.get ref' := by
  rw [get, set, OrderedMap.get?_insert, if_neg other, get]

end ObjectStore

theorem RunResult.Rectangular.names_columnPairs {st : Statement} {row : Row}
    (rect : st.contents.Rectangular)
    (mem : row ∈ st.rows) (settings : LayoutSettings) :
    (Layout.columnPairs settings row).map Prod.fst = st.columns.names := by
  have columns : row.columns = st.columns := rect.columns row mem
  have values : row.size = st.columns.count := rect.values row mem
  rw [Layout.columnPairs_names settings row (by rw [columns, values]), columns]

def OwnedStatement.movedTo (st : OwnedStatement) (n : Nat) : OwnedStatement :=
  { st with statement := { st.statement with cursor := n } }

namespace Session
variable {σ : Type} {eng : Engine σ} {engine : σ} {s : Session σ} {name name' : String}
  {asked asked' : Option FetchMode} {target target' : ObjectId} {st st' : OwnedStatement}
  {state state' : Connection.State} {pairs pairs' : List (String × Value)} {row : Row} {n m : Nat}

/-! ## The states of a session -/

/-- The sessions that callers can get to. They perform commands, and change and add objects at will. -/
inductive Reachable (eng : Engine σ) (engine : σ) : Session σ → Prop where
  | start : Reachable eng engine (start engine)
  | command {s : Session σ} (command : Command) (reached : Reachable eng engine s) :
      Reachable eng engine (command.perform eng s).2
  | objects {s : Session σ} (objects : ObjectStore) (reached : Reachable eng engine s) :
      Reachable eng engine { s with objects }

theorem Reachable.performAll (reached : Reachable eng engine s) (commands : List Command) :
    Reachable eng engine (performAll eng commands s).2 := by
  induction commands generalizing s with
  | nil => exact reached
  | cons command rest ih => exact ih (reached.command command)

theorem Reachable.holdsRectangular (reached : Reachable eng engine s) (name : String) :
    HoldsRectangular name s := by
  induction reached with
  | start => exact ⟨.empty, RunResult.rectangular_empty, fun st there => by cases there⟩
  | command command _ ih => exact perform_rectangular eng command ih
  | objects _ _ ih => exact ih

theorem Reachable.rectangular (reached : Reachable eng engine s)
    (there : s.statements.get? name = some st) : st.statement.contents.Rectangular := by
  obtain ⟨contents, rect, holds⟩ := reached.holdsRectangular name
  rw [holds st there]
  exact rect

/-! ## Fetches into an object -/

/-- The statement is there, and a fetch that asks like this is one into the object. -/
structure Fills (s : Session σ) (name : String) (asked : Option FetchMode) (target : ObjectId)
    (st : OwnedStatement) (state : Connection.State) : Prop where
  found : s.statement? name = some (st, state)
  mode : st.statement.fetchMode state asked = .into target

/-- The session with columns assigned to an object and the statement at the row of a number. -/
def filled (s : Session σ) (name : String) (st : OwnedStatement) (target : ObjectId)
    (pairs : List (String × Value)) (n : Nat) : Session σ :=
  { s with
    objects := s.objects.set target ((s.objects.get target).assign pairs)
    statements := s.statements.insert name (st.movedTo n) }

/-- The columns that were assigned last are left, if the names are the same. -/
theorem filled_filled (same : pairs.map Prod.fst = pairs'.map Prod.fst) :
    (s.filled name st target pairs n).filled name (st.movedTo n) target pairs' m =
      s.filled name st target pairs' m := by
  have statements : (s.statements.insert name (st.movedTo n)).insert name (st.movedTo m) =
      s.statements.insert name (st.movedTo m) := OrderedMap.insert_insert ..
  have movedTo : (st.movedTo n).movedTo m = st.movedTo m := rfl
  simp only [filled, ObjectStore.get_set, ObjectStore.set_set, Object.assign_assign _ same, movedTo,
    statements]

theorem Fills.filled (fills : Fills s name asked target st state) (pairs : List (String × Value))
    (n : Nat) :
    Fills (s.filled name st target pairs n) name asked target (st.movedTo n) state where
  found := by
    obtain ⟨-, c, live, same⟩ := statement?_eq_some.mp fills.found
    refine statement?_eq_some.mpr ⟨?_, c, live, same⟩
    rw [Session.filled, OrderedMap.get?_insert, if_pos rfl]
  mode := fills.mode

theorem Fills.filled_other (fills : Fills s name asked target st state) (other : name' ≠ name) :
    Fills (s.filled name' st' target' pairs n) name asked target st state where
  found := by
    obtain ⟨there, c, live, same⟩ := statement?_eq_some.mp fills.found
    refine statement?_eq_some.mpr ⟨?_, c, live, same⟩
    rw [Session.filled, OrderedMap.get?_insert, if_neg other]
    exact there
  mode := fills.mode

theorem Fills.fetch (fills : Fills s name asked target st state)
    (current : st.statement.current? = some row) :
    fetch eng name asked s = (some (.ok (some (.into target))),
      s.filled name st target (Layout.columnPairs state.layoutSettings row)
        (st.statement.cursor + 1)) := by
  rw [fetch_found fills.found, Statement.run_fetch, current, fills.mode]
  rfl

/-- Fetches of rows into an object, all at once or one by one, leave what the last of them would leave
alone. -/
theorem Fills.fetches (eng : Engine σ) (fills : Fills s name asked target st state)
    (rect : st.statement.contents.Rectangular)
    (last : st.statement.rows[st.statement.cursor + n]? = some row) :
    let after := s.filled name st target (Layout.columnPairs state.layoutSettings row)
      (st.statement.cursor + (n + 1))
    let single := List.replicate (n + 1) (Command.fetch name asked)
    fetchUpTo eng name asked (n + 1) s = (some (.ok (List.replicate (n + 1) (.into target))), after) ∧
      deliveries eng single s = List.replicate (n + 1) (.row (.into target)) ∧
      (performAll eng single s).2 = after := by
  induction n generalizing s st with
  | zero =>
    have fetched : (Command.fetch name asked).perform eng s = _ := fills.fetch last
    refine ⟨?_, ?_, congrArg Prod.snd fetched⟩
    · rw [fetchUpTo_succ, fills.fetch last]
      rfl
    · rw [List.replicate_one, deliveries, fetched]
      rfl
  | succ n ih =>
    obtain ⟨first, current⟩ : ∃ first, st.statement.current? = some first := by
      have within := (List.getElem?_eq_some_iff.mp last).1
      exact ⟨_, List.getElem?_eq_getElem (by omega)⟩
    have fetched : (Command.fetch name asked).perform eng s = _ := fills.fetch current
    -- the statement stands at the second row, and the rest takes back what the first one wrote
    have names {r : Row} (mem : r ∈ st.statement.rows) :=
      rect.names_columnPairs mem state.layoutSettings
    have same := (names (List.mem_of_getElem? current)).trans (names (List.mem_of_getElem? last)).symm
    have moved : st.statement.cursor + 1 + (n + 1) = st.statement.cursor + (n + 1 + 1) := by omega
    have last : (st.movedTo (st.statement.cursor + 1)).statement.rows[st.statement.cursor + 1 + n]? =
        some row := by
      rw [Nat.add_right_comm, Nat.add_assoc]
      exact last
    obtain ⟨all, delivered, left⟩ := ih (fills.filled _ (st.statement.cursor + 1)) rect last
    rw [filled_filled same] at all left
    refine ⟨?_, ?_, ?_⟩
    · rw [fetchUpTo_succ, fills.fetch current]
      simp only [all]
      rw [← moved]
      rfl
    · rw [List.replicate_succ, deliveries, fetched, delivered]
      rfl
    · change (performAll eng _ ((Command.fetch name asked).perform eng s).2).2 = _
      rw [fetched, ← moved]
      exact left

/-- What it comes to that a number of rows is fetched into an object, the given one last. -/
structure LeavesLast (eng : Engine σ) (s : Session σ) (name : String) (asked : Option FetchMode)
    (target : ObjectId) (st : OwnedStatement) (state : Connection.State) (k : Nat) (last : Row) :
    Prop where
  /-- The session ends as if the last row alone had been assigned. A fetch of all rows does this where
  these are all, and gives the object for each of them. -/
  all : st.statement.remaining = k →
    fetchAll eng name asked s = (some (.ok (List.replicate k (.into target))),
      s.filled name st target (Layout.columnPairs state.layoutSettings last) (st.statement.cursor + k))
  /-- So do single fetches. -/
  single : (performAll eng (List.replicate k (.fetch name asked)) s).2 =
    s.filled name st target (Layout.columnPairs state.layoutSettings last) (st.statement.cursor + k)
  handed : deliveries eng (List.replicate k (.fetch name asked)) s =
    List.replicate k (.row (.into target))
  names : (Layout.columnPairs state.layoutSettings last).map Prod.fst = st.statement.columns.names
  takesOver : Object.TakesOver (Layout.columnPairs state.layoutSettings last) (s.objects.get target)
    ((performAll eng (List.replicate k (.fetch name asked)) s).2.objects.get target)
  others : ∀ ref, target ≠ ref →
    (performAll eng (List.replicate k (.fetch name asked)) s).2.objects.get ref = s.objects.get ref

theorem Fills.leavesLast (eng : Engine σ) (fills : Fills s name asked target st state)
    (rect : st.statement.contents.Rectangular) {k : Nat} (positive : 1 ≤ k)
    (within : k ≤ st.statement.remaining) :
    ∃ last, st.statement.rows[st.statement.cursor + (k - 1)]? = some last ∧
      LeavesLast eng s name asked target st state k last := by
  obtain ⟨n, rfl⟩ := Nat.exists_eq_add_of_le' positive
  have inRows : st.statement.cursor + n < st.statement.rows.length := by
    rw [Statement.remaining] at within
    omega
  have last := List.getElem?_eq_getElem inRows
  obtain ⟨all, handed, single⟩ := fills.fetches eng rect last
  refine ⟨_, last, ?_, single, handed, rect.names_columnPairs (List.mem_of_getElem? last) _, ?_, ?_⟩
  · intro rest
    rw [fetchAll_found (statement?_eq_some.mp fills.found).1, rest]
    exact all
  · rw [single, Session.filled, ObjectStore.get_set]
    exact Object.takesOver_assign _ _
  · intro ref other
    rw [single]
    exact ObjectStore.get_set_of_ne other _ _

/-- Take any session that callers can get to, any object in it, and any statement with rows left from
which is fetched into this object. Whether all rows are fetched at once or any number of them one by one,
each row that is handed out is the reference of the object, and the session ends as if only the last row
had been assigned to the object as it was: it keeps its class, the places of its properties and what no
column names, has for each column name the value of the last such column in the last row, and has the
missing names behind. Nothing else changes but the place of the statement in its rows. The same holds
after another statement was fetched into the same object, with whatever columns, and then for the object
as that left it. -/
theorem into_leaves_last_row (eng : Engine σ) (reached : Reachable eng engine s)
    (fills : Fills s name asked target st state) {k : Nat} (positive : 1 ≤ k)
    (within : k ≤ st.statement.remaining) :
    ∃ last, st.statement.rows[st.statement.cursor + (k - 1)]? = some last ∧
      LeavesLast eng s name asked target st state k last ∧
      ∀ name' asked' st' state' j, name' ≠ name → Fills s name' asked' target st' state' →
        1 ≤ j → j ≤ st'.statement.remaining →
        ∃ last', st'.statement.rows[st'.statement.cursor + (j - 1)]? = some last' ∧
          LeavesLast eng s name' asked' target st' state' j last' ∧
          LeavesLast eng (performAll eng (List.replicate j (.fetch name' asked')) s).2 name asked target
            st state k last := by
  have rect {name st state} (found : s.statement? name = some (st, state)) :=
    reached.rectangular (statement?_eq_some.mp found).1
  obtain ⟨last, there, leaves⟩ := fills.leavesLast eng (rect fills.found) positive within
  refine ⟨last, there, leaves, ?_⟩
  intro name' asked' st' state' j other fills' positive' within'
  obtain ⟨last', there', leaves'⟩ := fills'.leavesLast eng (rect fills'.found) positive' within'
  refine ⟨last', there', leaves', ?_⟩
  -- the other statement moved on, and this one stands where it stood
  rw [leaves'.single]
  obtain ⟨_, same, leaves⟩ :=
    (fills.filled_other other).leavesLast eng (rect fills.found) positive within
  cases there.symm.trans same
  exact leaves

/-! ## Two rows in one object -/

namespace Twice

def commands : List Command := [
  .connect "c" "mysql-on-sqlite:path=p;dbname=d" { ConnectionOptions.standard with stringify := false },
  .operate "c" (.query "SELECT n, m, n FROM t") "q"]

/-- Two rows, with one name twice. -/
def scripted : Recording :=
  .ofEvents [.done, .done, .compiled 21 ⟨0, [("n", none), ("m", none), ("n", none)],
    [[.integer 1, .integer 2, .integer 3], [.integer 4, .null, .integer 6]], none, 0, 0, 0⟩]

/-- An object that has this name and another property. -/
def original : Object := (Object.ofClass "P").assign [("note", .text "x"), ("n", .int 0)]

def queried : Session Recording :=
  { (performAll Recording.engine commands (start scripted)).2 with
    objects := ObjectStore.empty.set 0 original }

theorem reachable_queried : Reachable Recording.engine scripted queried :=
  .objects _ (Reachable.start.performAll commands)

theorem queried_statement? :
    ∃ st state, queried.statement? "q" = some (st, state) ∧
      st.statement.rows.map Row.pairs = [[("n", .int 1), ("m", .int 2), ("n", .int 3)],
        [("n", .int 4), ("m", .null), ("n", .int 6)]] ∧
      st.statement.cursor = 0 ∧ state.layoutSettings.stringifies = false := by
  have loaded : (queried.statement? "q").map (fun p => (p.1.statement.rows.map Row.pairs,
      p.1.statement.cursor, p.2.layoutSettings.stringifies)) =
        some ([[("n", .int 1), ("m", .int 2), ("n", .int 3)],
          [("n", .int 4), ("m", .null), ("n", .int 6)]], 0, false) := by
    decide +kernel
  obtain ⟨⟨st, state⟩, found, loaded⟩ := Option.map_eq_some_iff.mp loaded
  simp only [Prod.mk.injEq] at loaded
  exact ⟨st, state, found, loaded⟩

end Twice

open Twice in
/-- The object has the values of the second row, each name with that of its last column. -/
theorem into_leaves_last_row_twice :
    Reachable Recording.engine scripted queried ∧
    ∃ o : Object, o.className = "P" ∧ o.properties.keys = ["note", "n", "m"] ∧
      o.get? "note" = some (.text "x") ∧ o.get? "n" = some (.int 6) ∧ o.get? "m" = some .null ∧
      (fetchAll Recording.engine "q" (some (.into 0)) queried).1 =
        some (.ok [.into 0, .into 0]) ∧
      (fetchAll Recording.engine "q" (some (.into 0)) queried).2.objects.get 0 = o := by
  obtain ⟨st, state, found, rows, cursor, plain⟩ := queried_statement?
  have remaining : st.statement.remaining = 2 := by
    rw [Statement.remaining, ← List.length_map Row.pairs, rows, cursor]
    rfl
  have fills : Fills queried "q" (some (.into 0)) 0 st state := ⟨found, rfl⟩
  obtain ⟨last, there, leaves, -⟩ := into_leaves_last_row Recording.engine reachable_queried fills
    (by decide) (Nat.le_of_eq remaining.symm)
  have second : (st.statement.rows.map Row.pairs)[1]? = some last.pairs := by
    rw [cursor] at there
    rw [List.getElem?_map, there]
    rfl
  have pairs : Layout.columnPairs state.layoutSettings last =
      [("n", .int 4), ("m", .null), ("n", .int 6)] := by
    rw [rows] at second
    rw [Layout.columnPairs, plain, ← Option.some_inj.mp second]
    rfl
  have takes := leaves.takesOver
  have fetched := leaves.all remaining
  rw [pairs] at takes
  rw [← leaves.single] at fetched
  refine ⟨reachable_queried, _, takes.className, takes.names.trans (by decide),
    takes.others "note" (by decide), takes.columns [("n", .int 4), ("m", .null)] "n" _ [] rfl (by decide),
    takes.columns [("n", .int 4)] "m" _ [("n", .int 6)] rfl (by decide), ?_, ?_⟩
  · rw [fetched]
    rfl
  · rw [fetched]

end Session
end SqlBridge
