import SqlBridge.Engine.Recording
import SqlBridge.Proofs.Session.IntoTarget

/-! # A column of the next row

A column is fetched like the whole row as a list, of which one value is kept. The
rows of a statement are rectangular, so the list lacks none of the values that a
column can be fetched for, and the settings convert a value in the same way
whether it is fetched alone or with the others. Where there is no value, nothing
is passed.
-/

namespace SqlBridge

/-- The column of this number is fetched as from the list that the next row makes. Where the next row has no
such column, nothing happens. -/
structure Statement.CutsList (st : Statement) (state : Connection.State) (i : Nat) : Prop where
  value : ∀ row v, st.current? = some row → row.get? i = some v →
    ∃ values w, values[i]? = some w ∧ st.fetchColumn state i = (some w, st.next) ∧
      ∀ asked objects, st.fetchMode state asked = .num →
        st.fetch state asked objects = .done (.ok (some (.list values)), st.next, objects)
  nothing : st.current?.bind (·.get? i) = none → st.fetchColumn state i = (none, st)

theorem RunResult.Rectangular.cutsList {st : Statement} (rect : st.contents.Rectangular)
    (state : Connection.State) (i : Nat) : st.CutsList state i where
  value row v current value := by
    obtain ⟨columns, size⟩ := rect.current current
    have whole : row.columns.count = row.size := by
      rw [columns, size]
      rfl
    have kept : row.values[i]? = some v := value
    refine ⟨row.values.map (Layout.present state.layoutSettings.stringifies),
      Layout.present state.layoutSettings.stringifies v, ?_, ?_, ?_⟩
    · rw [List.getElem?_map, kept, Option.map_some]
    · rw [Statement.fetchColumn, current, Option.bind_some, value]
    · intro asked objects list
      rw [Statement.fetch, current, list, ← Layout.columnPairs_values state.layoutSettings row whole]
      rfl
  nothing none := by rw [Statement.fetchColumn, none]

namespace Session
variable {σ : Type} {eng : Engine σ} {engine : σ} {s : Session σ} {name : String}
  {st : OwnedStatement} {state : Connection.State}

/-- A fetch that lays out a list passes the row and does nothing else. -/
theorem fetch_list (found : s.statement? name = some (st, state)) {asked : Option FetchMode}
    {values : List Value}
    (laid : st.statement.fetch state asked s.objects =
      .done (.ok (some (.list values)), st.statement.next, s.objects)) :
    fetch eng name asked s = (some (.ok (some (.list values))),
      (putStatement name { st with statement := st.statement.next } s).2) := by
  rw [fetch_found found, laid]
  rfl

/-- Take any session that callers can get to and any statement in it. If its next row has a value of some
number, then fetching the column of this number gives the value that stands there in the list that a fetch
of the row as a list would give, and both leave the same session, with the statement at the row after that.
Otherwise there is no value, and the session stays as it is. The statement itself would do the same under
any other settings of its connection. -/
theorem fetchColumn_cuts_list (eng : Engine σ) (reached : Reachable eng engine s)
    (found : s.statement? name = some (st, state)) (i : Nat) :
    (∀ row v, st.statement.current? = some row → row.get? i = some v →
      ∃ values w, values[i]? = some w ∧
        fetchColumn name i s = (some (some w),
          (putStatement name { st with statement := st.statement.next } s).2) ∧
        ∀ asked, st.statement.fetchMode state asked = .num →
          fetch eng name asked s =
            (some (.ok (some (.list values))), (fetchColumn name i s).2)) ∧
    (st.statement.current?.bind (·.get? i) = none → fetchColumn name i s = (some none, s)) ∧
    ∀ state', st.statement.CutsList state' i := by
  have there := (statement?_eq_some.mp found).1
  have cuts := (reached.rectangular there).cutsList (i := i)
  refine ⟨fun row v current value => ?_, fun nothing => ?_, cuts⟩
  · obtain ⟨values, w, listed, column, list⟩ := (cuts state).value row v current value
    have fetched : fetchColumn name i s = (some (some w),
        (putStatement name { st with statement := st.statement.next } s).2) := by
      rw [fetchColumn_found found, column]
    refine ⟨values, w, listed, fetched, fun asked mode => ?_⟩
    rw [fetched]
    exact fetch_list found (list asked s.objects mode)
  · rw [fetchColumn_found found, (cuts state).nothing nothing]
    exact Prod.ext rfl (putStatement_unchanged there)

/-- A statement is executed, a column is fetched, values are to be stringified from then on, and the statement
is executed again: its second column is fetched as text, and it has no third one. -/
theorem fetchColumn_cuts_list_again :
    let commands : List Command := [
      .connect "c" "mysql-on-sqlite:path=p;dbname=d" { ConnectionOptions.standard with stringify := false },
      .operate "c" (.prepare "SELECT 1, 1.5") "q", .execute "q" [], .fetchColumn "q" 1,
      .setAttribute "c" .stringifyFetches (.bool true), .execute "q" []]
    let run : EngineEvent := .compiled 13
      ⟨0, [("1", none), ("1.5", none)], [[.integer 1, .real ⟨0x3ff8000000000000⟩]], none, 0, 0, 0⟩
    let engine := Recording.ofEvents [.done, .done, run, run, run]
    let s := (performAll Recording.engine commands (start engine)).2
    Reachable Recording.engine engine s ∧ (s.statement? "q").isSome ∧
    (∃ values s', values[1]? = some (.text "1.5") ∧
      fetchColumn "q" 1 s = (some (some (.text "1.5")), s') ∧
      fetch Recording.engine "q" (some .num) s = (some (.ok (some (.list values))), s')) ∧
    fetchColumn "q" 2 s = (some none, s) := by
  intro commands run engine s
  have reached : Reachable Recording.engine engine s := Reachable.start.performAll commands
  have loaded : (s.statement? "q").map (fun p => p.1.statement.current?.map Row.values) =
      some (some [.int 1, .float ⟨0x3ff8000000000000⟩]) := by decide +kernel
  have column : (fetchColumn "q" 1 s).1 = some (some (.text "1.5")) := by decide +kernel
  obtain ⟨⟨st, state⟩, found, loaded⟩ := Option.map_eq_some_iff.mp loaded
  obtain ⟨row, current, loaded⟩ := Option.map_eq_some_iff.mp loaded
  have second : row.get? 1 = some (.float ⟨0x3ff8000000000000⟩) := by
    rw [Row.get?, loaded]
    rfl
  have third : st.statement.current?.bind (·.get? 2) = none := by
    rw [current, Option.bind_some, Row.get?, loaded]
    rfl
  obtain ⟨value, -, -⟩ := fetchColumn_cuts_list Recording.engine reached found 1
  obtain ⟨-, nothing, -⟩ := fetchColumn_cuts_list Recording.engine reached found 2
  obtain ⟨values, w, listed, fetched, list⟩ := value row _ current second
  have same : w = .text "1.5" := by
    rw [fetched] at column
    exact Option.some_inj.mp (Option.some_inj.mp column)
  subst same
  refine ⟨reached, ?_, ⟨values, _, listed, fetched, ?_⟩, nothing third⟩
  · rw [found]
    rfl
  · have row := list (some .num) rfl
    rwa [fetched] at row

end Session
end SqlBridge
