import SqlBridge.Connection
import SqlBridge.Proofs.Engine.Changes

/-! # Counts of changed rows at a connection

The count of a run is returned by `exec` and kept by the statements that queries
and executions load. The main theorem says of all of them for which readings of
the engine's counters the count is the right one, over any run of a text at any
moment of a connection's life.
-/

namespace SqlBridge

namespace Connection
open Running
variable {σ : Type} {eng : Engine σ} {r : Running σ} {sql : String} {params : List Value}
  {result : RunResult} {s' : σ}

theorem runSql_of_run (ran : eng.run r.connection.handle sql params r.engine = (.ok result, s')) :
    runSql eng sql params r = (.ok result, { r with engine := s' }) := by
  change ((eng.run r.connection.handle sql params r.engine).1,
    { r with engine := (eng.run r.connection.handle sql params r.engine).2 }) = _
  rw [ran]

theorem exec_of_run (ran : eng.run r.connection.handle sql [] r.engine = (.ok result, s')) :
    (exec eng sql r).1 = .ok (some result.changes) := by
  rw [exec, Engine.bind_apply, runSql_of_run ran]
  rfl

theorem queryIn_of_run (ran : eng.run r.connection.handle sql [] r.engine = (.ok result, s'))
    (mode : Option FetchMode) :
    (queryIn eng mode sql r).1 = .ok (some ((Statement.ofSql sql mode).withResult result)) := by
  rw [queryIn, Engine.bind_apply, runSql_of_run ran]
  rfl

theorem execute_of_run {st : Statement}
    (ran : eng.run r.connection.handle st.sql params r.engine = (.ok result, s')) :
    (execute eng st params r).1 =
      (.ok true, { st.clear with error := .success }.withResult result) := by
  rw [execute, Engine.bind_apply]
  rw [show runSql eng st.clear.sql params r = _ from runSql_of_run ran]
  rfl

/-- For every text, every values of its parameters and every state of a connection, a run that
succeeds executes a list of statements. The count of each agrees with the engine's readings around
it unless these are masked, and never if they are. The count of the last one is what `exec`
returns and what a statement has as its row count after a query or an execution. -/
theorem reported_changes (st : Statement)
    (ran : eng.run r.connection.handle st.sql params r.engine = (.ok result, s')) :
    ∃ done, eng.Executes r.connection.handle st.sql params 0 r.engine done s' ∧
      (∀ e ∈ done,
        (eng.countersAround r.connection.handle st.sql e).Truthful e.result.changes ↔
          ¬(eng.countersAround r.connection.handle st.sql e).Masked) ∧
      result = Engine.lastResult .empty done ∧
      (∃ st', (execute eng st params r).1 = (.ok true, st') ∧ st'.rowCount = result.changes) ∧
      (params = [] →
        (exec eng st.sql r).1 = .ok (some result.changes) ∧
        ∀ mode, ∃ st', (queryIn eng mode st.sql r).1 = .ok (some st') ∧
          st'.rowCount = result.changes) := by
  obtain ⟨done, executes, last⟩ := Engine.executes_of_run ran
  refine ⟨done, executes, executes.truthful_iff, last, ⟨_, execute_of_run ran, rfl⟩, ?_⟩
  rintro rfl
  exact ⟨exec_of_run ran, fun mode => ⟨_, queryIn_of_run ran mode, rfl⟩⟩

/-- A connection to the engine that is going to show the given readings. -/
def counting (c : Readings) : Running Recording :=
  ⟨c.recorded, ⟨⟨0⟩, .ofOptions .standard⟩, []⟩

/-- The first two rows that a connection deletes are counted. -/
theorem reported_changes_first :
    let c : Readings := ⟨0, 2, 2⟩
    let st : Statement := .ofSql Readings.deletion none
    (∃ s', Recording.engine.run ⟨0⟩ st.sql [] c.recorded = (.ok c.execution.result, s')) ∧
    (exec Recording.engine st.sql (counting c)).1 = .ok (some 2) ∧
    ∃ st', (execute Recording.engine st [] (counting c)).1 = (.ok true, st') ∧ st'.rowCount = 2 := by
  intro c st
  obtain ⟨s', ran⟩ := c.run_recorded ⟨0⟩
  obtain ⟨done, -, -, -, executed, sent⟩ :=
    reported_changes (r := counting c) st ran
  exact ⟨⟨s', ran⟩, (sent rfl).1, executed⟩

/-- Once the total has passed the largest word and turned negative, two deleted rows are reported as
none. -/
theorem reported_changes_wrapped :
    let c : Readings := ⟨-2147483648, -2147483646, 2⟩
    (∃ s', Recording.engine.Executes ⟨0⟩ Readings.deletion [] 0 (counting c).engine
      [c.execution] s') ∧
    Recording.engine.countersAround ⟨0⟩ Readings.deletion c.execution = c ∧
    (exec Recording.engine Readings.deletion (counting c)).1 = .ok (some 0) ∧
    ¬c.Truthful 0 := by
  intro c
  obtain ⟨s', ran⟩ := c.run_recorded ⟨0⟩
  refine ⟨c.executes_recorded ⟨0⟩, c.countersAround_execution ⟨0⟩,
    exec_of_run (r := counting c) ran, ?_⟩
  intro truthful
  exact absurd (truthful.2 (by decide) (by decide)) (by decide)

end Connection
end SqlBridge
