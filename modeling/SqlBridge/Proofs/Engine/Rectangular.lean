import SqlBridge.Proofs.Engine.Execution

/-! # Results are rectangular

The columns of a result are collected before its rows, and every row is read
column by column. So whatever the engine answers, each row of a result has one
value for each column, and the columns have one type slot for each name.
-/

namespace SqlBridge

theorem Columns.length_types_ofTypes (names : List String) (types : List (Option String)) :
    (ofTypes names types).types.length = (ofTypes names types).count := by
  simp only [ofTypes, count, List.length_append, List.length_take, List.length_replicate]
  omega

namespace RunResult

/-- Every row has the columns of the result and one value for each of them, and every column has a slot
for its type. -/
structure Rectangular (r : RunResult) : Prop where
  types : r.columns.types.length = r.columns.count
  columns : ∀ row ∈ r.rows, row.columns = r.columns
  values : ∀ row ∈ r.rows, row.size = r.columns.count

theorem rectangular_empty : empty.Rectangular := ⟨rfl, by simp [empty], by simp [empty]⟩

end RunResult

namespace Engine
variable {σ : Type} {eng : Engine σ} {h : Handle} {sql : String} {params : List Value} {s s' : σ}
  {result r : RunResult}

theorem size_readRow (columns : Columns) (cells : Nat → Cell) :
    (readRow columns cells).size = columns.count := by
  simp [readRow, Row.size]

theorem runProgram_rectangular {program : Program}
    (ran : eng.runProgram h program sql params s = (.ok r, s')) : r.Rectangular := by
  obtain ⟨_, _, _, described, _, _, _, rows, _, _, _, -, -, -, -, -, -, columns, read, -⟩ :=
    runProgram_ok ran
  refine ⟨?_, fun row mem => ?_, fun row mem => ?_⟩
  · rw [columns]
    exact Columns.length_types_ofTypes _ _
  · obtain ⟨cells, -, rfl⟩ := List.mem_map.mp (read ▸ mem)
    rfl
  · obtain ⟨cells, -, rfl⟩ := List.mem_map.mp (read ▸ mem)
    exact size_readRow r.columns cells

theorem Executes.rectangular {offset : Nat} {done : List (Execution σ)}
    (executes : Executes eng h sql params offset s done s') :
    ∀ e ∈ done, e.result.Rectangular := by
  induction executes with
  | finished past => simp
  | blank inside compiled nothing rest ih => exact ih
  | statement inside compiled found executed rest ih =>
    exact List.forall_mem_cons.mpr ⟨runProgram_rectangular executed, ih⟩

theorem lastResult_rectangular {done : List (Execution σ)} (before : result.Rectangular)
    (each : ∀ e ∈ done, e.result.Rectangular) : (lastResult result done).Rectangular := by
  rw [lastResult]
  cases last : done.getLast? with
  | none => exact before
  | some e => exact each e (List.mem_of_getLast? last)

/-- The result of a run is rectangular, also if the text had no statement. -/
theorem run_rectangular (ran : eng.run h sql params s = (.ok r, s')) : r.Rectangular := by
  obtain ⟨done, executes, rfl⟩ := executes_of_run ran
  exact lastResult_rectangular RunResult.rectangular_empty executes.rectangular

end Engine
end SqlBridge
