import SqlBridge.Engine.Recording
import SqlBridge.Proofs.Engine.Rectangular
import SqlBridge.Proofs.Fetch.Assoc
import SqlBridge.Proofs.Session.Contents
import SqlBridge.Proofs.Session.LastError

/-! # Rows stay rectangular

A statement takes over a rectangular result under the names that are shown, value
by value. So whatever is done to a session, the rows that its statements hold have
one value for each column. Nothing is lost where names and values are paired, and
an index has a value exactly if there is a column of that number.
-/

namespace SqlBridge

section Loads
variable {r : RunResult}

theorem RunResult.Rectangular.shown (rect : r.Rectangular) : r.shown.Rectangular where
  types := by
    rw [RunResult.shown, Columns.shown, Columns.count, List.length_map]
    exact rect.types
  columns row mem := by
    obtain ⟨_, -, rfl⟩ := List.mem_map.mp mem
    rfl
  values row mem := by
    obtain ⟨row', mem', rfl⟩ := List.mem_map.mp mem
    rw [RunResult.shown, Columns.shown, Columns.count, List.length_map]
    exact rect.values row' mem'

theorem Statement.contents_withResult (st : Statement) (r : RunResult) :
    (st.withResult r).contents = r.shown := rfl

theorem Statement.values_withResult (st : Statement) (r : RunResult) :
    (st.withResult r).rows.map Row.values = r.rows.map Row.values := by
  simp [withResult]

/-- A statement is made without rows, or with the rows of a run. -/
theorem Connection.Operation.Made.rectangular {σ : Type} {eng : Engine σ} {c : Connection} {s : σ}
    {st : Statement} (made : Made eng c s st) : st.contents.Rectangular := by
  cases made with
  | compiled sql => exact RunResult.rectangular_empty
  | ran ran mode => exact (Engine.run_rectangular ran).shown

end Loads

/-! ## Reading -/

/-- What reading the current row of a statement comes to, whatever the settings are: a list has a value
for every column, an index has a value if it is that of a column, and every column is paired with its
value. -/
structure Statement.ReadsWhole (st : Statement) : Prop where
  list : ∀ state asked objects, st.current?.isSome → st.fetchMode state asked = .num →
    ∃ values, st.fetch state asked objects = .done (.ok (some (.list values)), st.next, objects) ∧
      values.length = st.columnCount
  column : ∀ state i, st.current?.isSome → ((st.fetchColumn state i).1.isSome ↔ i < st.columnCount)
  count : ∀ settings row, st.current? = some row →
    (Layout.columnPairs settings row).length = st.columnCount
  pairs : ∀ settings row i description, st.current? = some row →
    st.describeColumn i = some description → ∃ v, row.get? i = some v ∧
      (Layout.columnPairs settings row)[i]? =
        some (description.name, Layout.present settings.stringifies v)

/-- A row is laid out by its pairs of name and value alone, in every mode. -/
theorem layOut_congr {settings : LayoutSettings} {row row' : Row}
    (same : Layout.columnPairs settings row' = Layout.columnPairs settings row) (mode : FetchMode)
    (objects : ObjectStore) :
    layOut settings row' mode objects = layOut settings row mode objects := by
  simp only [layOut, same]

section Reading
variable {st : Statement} {row : Row}

theorem RunResult.Rectangular.current (rect : st.contents.Rectangular)
    (current : st.current? = some row) : row.columns = st.columns ∧ row.size = st.columnCount := by
  have mem : row ∈ st.rows := List.mem_of_getElem? current
  exact ⟨rect.columns row mem, rect.values row mem⟩

theorem RunResult.Rectangular.length_pairs (rect : st.contents.Rectangular)
    (current : st.current? = some row) (settings : LayoutSettings) :
    (Layout.columnPairs settings row).length = st.columnCount := by
  obtain ⟨columns, size⟩ := rect.current current
  have names : row.columns.names.length = st.columnCount := by
    rw [columns]
    rfl
  rw [Layout.columnPairs, List.length_map, Row.pairs, List.length_zip, names]
  exact Nat.min_eq_left (Nat.le_of_eq size.symm)

theorem RunResult.Rectangular.readsWhole (rect : st.contents.Rectangular) : st.ReadsWhole where
  list state asked objects there mode := by
    obtain ⟨row, current⟩ := Option.isSome_iff_exists.mp there
    refine ⟨(Layout.columnPairs state.layoutSettings row).map Prod.snd, ?_, ?_⟩
    · rw [Statement.fetch, current, mode]
      rfl
    · rw [List.length_map, rect.length_pairs current]
  column state i there := by
    obtain ⟨row, current⟩ := Option.isSome_iff_exists.mp there
    obtain ⟨-, size⟩ := rect.current current
    rw [Statement.fetchColumn, current, Option.bind_some, ← size]
    cases value : row.get? i with
    | none => simpa [Row.size] using List.getElem?_eq_none_iff.mp value
    | some v => simpa [Row.size] using (List.getElem?_eq_some_iff.mp value).1
  count settings row current := rect.length_pairs current settings
  pairs settings row i description current described := by
    obtain ⟨columns, size⟩ := rect.current current
    obtain ⟨name, named, rfl⟩ := Option.map_eq_some_iff.mp described
    have within : i < row.values.length := by
      rw [show row.values.length = st.columnCount from size]
      exact (List.getElem?_eq_some_iff.mp named).1
    have value : row.values[i]? = some row.values[i] := List.getElem?_eq_getElem within
    exact ⟨row.values[i], value, Layout.columnPairs_getElem? settings row (columns ▸ named) value⟩

end Reading

/-! ## Runs of commands -/

namespace Session
variable {σ : Type} {eng : Engine σ} {s : Session σ} {name : String}

def Loading.Rectangular : Loading → Prop
  | made contents => contents.Rectangular
  | ran (.ok r) => r.Rectangular
  | ran (.error _) => True

/-- After a failed execution there are no rows, and the columns are as good as they were. -/
theorem Loading.Rectangular.leaves {loading : Loading} {contents : RunResult}
    (rect : loading.Rectangular) (before : contents.Rectangular) :
    (loading.leaves contents).Rectangular := by
  match loading with
  | .made _ => exact rect
  | .ran (.ok _) => exact RunResult.Rectangular.shown rect
  | .ran (.error _) => exact ⟨before.types, by simp [Loading.leaves], by simp [Loading.leaves]⟩

theorem rectangular_of_handed {connection keepAs : String} {op : Connection.Operation}
    {st : Statement}
    (handed : handed? op (Command.performOperation eng connection keepAs op s).1 = some st) :
    st.contents.Rectangular := by
  obtain ⟨reply, replied, handed⟩ := Option.bind_eq_some_iff.mp handed
  obtain ⟨id, c, -, performed⟩ := perform_of_reply replied
  obtain ⟨handedOver, succeeded, made⟩ := Option.bind_eq_some_iff.mp handed
  cases reply with
  | error e => cases succeeded
  | ok r =>
    cases succeeded
    obtain ⟨a, ended, made⟩ := Connection.outcome_of_made performed made
    exact (Connection.Operation.outcome_made ended made).rectangular

theorem loading?_rectangular {command : Command} {loading : Loading}
    (loads : loading? eng name s command = some loading) : loading.Rectangular := by
  cases command with
  | operate connection op keepAs =>
    simp only [loading?] at loads
    split at loads
    · obtain ⟨st, handed, rfl⟩ := Option.map_eq_some_iff.mp loads
      exact rectangular_of_handed handed
    · cases loads
  | execute name' params =>
    simp only [loading?] at loads
    split at loads
    · obtain ⟨outcome, executed, rfl⟩ := Option.map_eq_some_iff.mp loads
      obtain ⟨st, -, executed⟩ := Option.bind_eq_some_iff.mp executed
      obtain ⟨c, -, executed⟩ := Option.bind_eq_some_iff.mp executed
      cases ran : eng.run c.handle st.statement.sql params s.engine with
      | mk result s' =>
        rw [ran] at executed
        cases executed
        cases result with
        | error e => trivial
        | ok r => exact Engine.run_rectangular ran
    · cases loads
  | _ => cases loads

def HoldsRectangular (name : String) (s : Session σ) : Prop :=
  ∃ contents : RunResult, contents.Rectangular ∧ Holds name contents s

theorem perform_rectangular (eng : Engine σ) (command : Command)
    (holds : HoldsRectangular name s) : HoldsRectangular name (command.perform eng s).2 := by
  obtain ⟨contents, rect, holds⟩ := holds
  refine ⟨_, ?_, perform_contents eng command name s holds⟩
  cases loads : loading? eng name s command with
  | none => exact rect
  | some loading => exact (loading?_rectangular loads).leaves rect

theorem performAll_rectangular (eng : Engine σ) (commands : List Command)
    (holds : HoldsRectangular name s) : HoldsRectangular name (performAll eng commands s).2 := by
  induction commands generalizing s with
  | nil => exact holds
  | cons command rest ih => exact ih (perform_rectangular eng command holds)

/-- Over any engine, every result of a run is rectangular: each row has one value for each column, and
there is one type slot for each column. A statement that takes a result over keeps it rectangular and
keeps the values of every row. So after any commands the rows that a statement holds have one value for
each of its columns: a fetched list has a value for every column, a column can be fetched exactly if the
statement has it, and where names are paired with values, which is all that any mode lays out, every
column is there with its value. -/
theorem rows_stay_rectangular (eng : Engine σ) (engine : σ) (commands : List Command) :
    (∀ h sql params (s s' : σ) r, eng.run h sql params s = (.ok r, s') → r.Rectangular) ∧
    (∀ (st : Statement) r, r.Rectangular → (st.withResult r).contents.Rectangular ∧
      (st.withResult r).columnCount = r.columns.count ∧
      (st.withResult r).rows.map Row.values = r.rows.map Row.values) ∧
    (∀ settings row row' mode objects,
      Layout.columnPairs settings row' = Layout.columnPairs settings row →
        layOut settings row' mode objects = layOut settings row mode objects) ∧
    ∀ name owned, (performAll eng commands (start engine)).2.statements.get? name = some owned →
      owned.statement.contents.Rectangular ∧ owned.statement.ReadsWhole := by
  refine ⟨fun h sql params s s' r ran => Engine.run_rectangular ran, fun st r rect =>
    ⟨?_, ?_, st.values_withResult r⟩, fun _ _ _ mode objects same => layOut_congr same mode objects,
    fun name owned known => ?_⟩
  · rw [Statement.contents_withResult]
    exact rect.shown
  · simp [Statement.columnCount, Statement.withResult, Columns.shown, Columns.count]
  · have nothing : HoldsRectangular name (start engine) :=
      ⟨.empty, RunResult.rectangular_empty, fun st there => by cases there⟩
    obtain ⟨contents, rect, holds⟩ := performAll_rectangular eng commands nothing
    rw [← holds owned known] at rect
    exact ⟨rect, rect.readsWhole⟩

/-- A query for two columns, one of them under a name that is shown without its quotes: the second column
of the row can be fetched and there is no third. -/
theorem rows_stay_rectangular_quoted :
    let commands : List Command := [.connect "c" "mysql-on-sqlite:path=p;dbname=d" .standard,
      .operate "c" (.query "SELECT 1, 'a'") "q"]
    let run : EngineEvent :=
      .compiled 13 ⟨0, [("1", none), ("'a'", none)], [[.integer 1, .text [97]]], none, 0, 0, 0⟩
    let engine := Recording.ofEvents [.done, .done, run]
    ∃ owned, (performAll Recording.engine commands (start engine)).2.statements.get? "q" = some owned ∧
      owned.statement.columns.names = ["1", "a"] ∧ owned.statement.current?.isSome ∧
      ∀ state, (owned.statement.fetchColumn state 1).1.isSome ∧
        ¬ (owned.statement.fetchColumn state 2).1.isSome := by
  intro commands run engine
  have loaded : ((performAll Recording.engine commands (start engine)).2.statements.get? "q").map
      (fun owned => (owned.statement.columns.names, owned.statement.current?.isSome)) =
        some (["1", "a"], true) := by decide +kernel
  obtain ⟨owned, known, loaded⟩ := Option.map_eq_some_iff.mp loaded
  obtain ⟨names, current⟩ := Prod.mk.inj loaded
  have count : owned.statement.columnCount = 2 := by
    rw [Statement.columnCount, Columns.count, names]
    rfl
  obtain ⟨-, -, -, reads⟩ := rows_stay_rectangular Recording.engine engine commands
  have whole := (reads "q" owned known).2
  refine ⟨owned, known, names, current, fun state => ⟨?_, ?_⟩⟩
  · rw [whole.column state 1 current, count]
    exact Nat.one_lt_two
  · rw [whole.column state 2 current, count]
    exact Nat.lt_irrefl 2

end Session
end SqlBridge
