import SqlBridge.Engine.Recording
import SqlBridge.Proofs.Session.CommandRecords
import SqlBridge.Proofs.Session.SmallSteps

/-! # What a statement holds

A statement holds columns, rows and a number of changes. They are written when it
is made and when it is executed, and by nothing else. An execution that succeeds
leaves what it gave. One that fails gives up the rows and the changes, but leaves
the columns of an earlier load.
-/

namespace SqlBridge

def Statement.contents (st : Statement) : RunResult := ⟨st.columns, st.rows, st.changes⟩

def RunResult.shown (r : RunResult) : RunResult :=
  ⟨r.columns.shown, r.rows.map fun row => ⟨r.columns.shown, row.values⟩, r.changes⟩

namespace Session
variable {σ : Type} {eng : Engine σ} {s s' s'' : Session σ} {name : String}

/-- What writes the contents of a statement: it is made with contents, or it is executed. -/
inductive Loading where
  | made (contents : RunResult)
  | ran (outcome : Except Error RunResult)

namespace Loading

/-- What a statement holds after it held something before. -/
def leaves (before : RunResult) : Loading → RunResult
  | made contents => contents
  | ran (.ok r) => r.shown
  | ran (.error _) => ⟨before.columns, [], 0⟩

def loaded? : Loading → Option RunResult
  | made contents => some contents
  | ran (.ok r) => some r.shown
  | ran (.error _) => none

def latestLoaded (loadings : List Loading) : RunResult :=
  (loadings.filterMap loaded?).getLast?.getD .empty

theorem columns_foldl_from (before : RunResult) (loadings : List Loading) :
    (loadings.foldl leaves before).columns =
      ((loadings.filterMap loaded?).getLast?.getD before).columns := by
  induction loadings generalizing before with
  | nil => rfl
  | cons loading rest ih =>
    rw [List.foldl_cons, ih]
    cases loading with
    | made contents => simp [leaves, loaded?, List.getLast?_cons]
    | ran outcome =>
      cases outcome with
      | ok r => simp [leaves, loaded?, List.getLast?_cons]
      | error e =>
        rw [List.filterMap_cons_none rfl]
        cases (rest.filterMap loaded?).getLast? <;> rfl

/-- The columns are those of the latest load that did not fail. -/
theorem columns_foldl (loadings : List Loading) :
    (loadings.foldl leaves .empty).columns = (latestLoaded loadings).columns :=
  columns_foldl_from .empty loadings

end Loading

def executed? (eng : Engine σ) (name : String) (params : List Value) (s : Session σ) :
    Option (Except Error RunResult) := do
  let st ← s.statements.get? name
  let c ← s.live.get? st.owner
  return (eng.run c.handle st.statement.sql params s.engine).1

/-- How a command writes the contents of the named statement, if it does. -/
def loading? (eng : Engine σ) (name : String) (s : Session σ) : Command → Option Loading
  | .operate connection op keepAs =>
    if keepAs = name then
      (handed? op (Command.performOperation eng connection keepAs op s).1).map fun st =>
        .made st.contents
    else none
  | .execute name' params =>
    if name' = name then (executed? eng name params s).map .ran else none
  | _ => none

def loadings (eng : Engine σ) (name : String) : List Command → Session σ → List Loading
  | [], _ => []
  | command :: rest, s =>
    (loading? eng name s command).toList ++ loadings eng name rest (command.perform eng s).2

def Holds (name : String) (contents : RunResult) (s : Session σ) : Prop :=
  ∀ st, s.statements.get? name = some st → st.statement.contents = contents

/-- What the statement of the name holds, it goes on to hold. -/
def KeepsContents (name : String) (s s' : Session σ) : Prop :=
  ∀ contents, Holds name contents s → Holds name contents s'

namespace KeepsContents

theorem refl (s : Session σ) : KeepsContents name s s := fun _ holds => holds

theorem trans (first : KeepsContents name s s') (second : KeepsContents name s' s'') :
    KeepsContents name s s'' :=
  fun contents holds => second contents (first contents holds)

theorem of_statements (same : s'.statements = s.statements) : KeepsContents name s s' := by
  intro contents holds st there
  rw [same] at there
  exact holds st there

end KeepsContents

theorem release_statements (eng : Engine σ) (id : ConnectionId) (s : Session σ) :
    (release eng id s).2.statements = s.statements := by
  rw [release, get_bind]
  split
  · exact (onShared_sameNames id (Connection.close eng) s).statements
  · rfl

theorem keep_statements (eng : Engine σ) (name : String) (st : OwnedStatement) (s : Session σ) :
    (keep eng name st s).2.statements = s.statements.insert name st := by
  rw [keep, get_bind]
  cases s.statements.get? name with
  | none => rfl
  | some old => exact release_statements eng old.owner _

theorem SmallStep.keepsContents (step : SmallStep s s') : KeepsContents name s s' := by
  cases step with
  | work id act keeps => exact .of_statements (onShared_sameNames id act s).statements
  | drop id => exact .of_statements rfl
  | disconnect name' => exact .of_statements rfl
  | free name' =>
    intro contents holds st there
    rw [OrderedMap.get?_erase] at there
    split at there
    · cases there
    · exact holds st there
  | @moveOn name' st there cursor mode objects =>
    intro contents holds put found
    rw [OrderedMap.get?_insert] at found
    split at found
    next here =>
      have kept : st.statement.contents = contents := holds st (here ▸ there)
      cases found
      exact kept
    next => exact holds put found

theorem SmallSteps.keepsContents (steps : SmallSteps s s') : KeepsContents name s s' := by
  induction steps with
  | refl => exact .refl s
  | tail _ step ih => exact ih.trans step.keepsContents

theorem connect_contents (eng : Engine σ) (name' dsn : String) (options : ConnectionOptions)
    (s : Session σ) : KeepsContents name s (connect eng name' dsn options s).2 := by
  apply KeepsContents.of_statements
  rw [connect, get_bind]
  rcases Connection.connect eng dsn options s.engine with ⟨e | ⟨c, params⟩, engine⟩
  · rfl
  · cases s.connections.get? name' with
    | none => rfl
    | some old => exact release_statements eng old.id _

section Loads
variable {contents : RunResult}

theorem makeStatement_contents (eng : Engine σ) (connection keepAs : String)
    (make : StateM (Running σ) (Except Error (Option Statement))) (holds : Holds name contents s) :
    let handed := (makeStatement eng connection keepAs make s).1.bind fun reply =>
      reply.toOption.bind fun st? => st?
    let load := if keepAs = name then handed.map fun st => Loading.made st.contents else none
    Holds name (load.toList.foldl Loading.leaves contents)
      (makeStatement eng connection keepAs make s).2 := by
  cases named? : s.connections.get? connection with
  | none =>
    rw [makeStatement_unnamed named?]
    simpa using holds
  | some named =>
    have made : Holds name contents (onShared named.id make s).2 :=
      KeepsContents.of_statements (onShared_sameNames named.id make s).statements contents holds
    rw [makeStatement_named named?]
    rcases result : onShared named.id make s with ⟨_ | (e | (_ | st)), s₁⟩
    all_goals rw [result] at made
    · simpa using made
    · simpa [Except.toOption] using made
    · simpa [Except.toOption] using made
    · intro handed load put there
      rw [keep_statements, OrderedMap.get?_insert] at there
      split at there
      next here =>
        cases there
        simp [load, handed, here, Except.toOption, Loading.leaves]
      next other =>
        simpa [load, other] using made put there

theorem operate_contents (eng : Engine σ) (connection : String) (op : Connection.Operation)
    (keepAs : String) (holds : Holds name contents s) :
    Holds name ((loading? eng name s (.operate connection op keepAs)).toList.foldl Loading.leaves contents)
      (Command.performOperation eng connection keepAs op s).2 := by
  have plain (never : ∀ reply, op.made? reply = none) (act : StateM (Running σ) (Except Error op.Reply)) :
      Holds name ((loading? eng name s (.operate connection op keepAs)).toList.foldl Loading.leaves contents)
        (onConnection connection act s).2 := by
    have nothing : loading? eng name s (.operate connection op keepAs) = none := by
      simp [loading?, handed?, never]
    rw [nothing]
    exact KeepsContents.of_statements (onConnection_sameNames connection act s).statements contents holds
  cases op with
  | exec | begin | commit | rollBack => exact plain (fun _ => rfl) _
  | query | queryMode | queryStyle | prepare =>
    exact makeStatement_contents eng connection keepAs _ holds

/-- An execution leaves what it gave, or the columns alone if it failed. -/
theorem afterRun_contents (st : Statement) (last : LastError) (outcome : Except Error RunResult) :
    (Connection.afterRun st last outcome).contents = (Loading.ran outcome).leaves st.contents := by
  cases outcome <;> rfl

theorem execute_contents (eng : Engine σ) (name' : String) (params : List Value)
    (holds : Holds name contents s) :
    Holds name ((loading? eng name s (.execute name' params)).toList.foldl Loading.leaves contents)
      (execute eng name' params s).2 := by
  have unloaded (nothing : executed? eng name' params s = none) :
      Holds name ((loading? eng name s (.execute name' params)).toList.foldl Loading.leaves contents)
        s := by
    by_cases here : name' = name
    · subst here
      rw [loading?, if_pos rfl, nothing]
      exact holds
    · rw [loading?, if_neg here]
      exact holds
  rw [execute, get_bind]
  cases prepared : s.statements.get? name' with
  | none => exact unloaded (by rw [executed?, prepared]; rfl)
  | some st =>
    cases found : s.live.get? st.owner with
    | none =>
      simp only [Engine.bind_apply, onShared_missing found]
      exact unloaded (by simp [executed?, prepared, found])
    | some c =>
      simp only [Engine.bind_apply, onShared_found found, Connection.execute_eq]
      intro put there
      have there : (s.statements.insert name' { st with statement := _ }).get? name = some put := there
      rw [OrderedMap.get?_insert] at there
      split at there
      next here =>
        cases there
        have loaded : executed? eng name params s =
            some (eng.run c.handle st.statement.sql params s.engine).1 := by
          simp [executed?, ← here, prepared, found]
        rw [loading?, if_pos here, loaded, ← holds st (here ▸ prepared)]
        exact afterRun_contents _ _ _
      next other =>
        rw [loading?, if_neg other]
        exact holds put there

end Loads

theorem perform_contents (eng : Engine σ) (command : Command) (name : String) (s : Session σ)
    {contents : RunResult} (holds : Holds name contents s) :
    Holds name ((loading? eng name s command).toList.foldl Loading.leaves contents)
      (command.perform eng s).2 := by
  cases command with
  | connect name' dsn options => exact connect_contents eng name' dsn options s contents holds
  | operate connection op keepAs => exact operate_contents eng connection op keepAs holds
  | execute name' params => exact execute_contents eng name' params holds
  | _ => exact (perform_steps eng rfl s).keepsContents contents holds

theorem performAll_contents (eng : Engine σ) (commands : List Command) (name : String)
    {contents : RunResult} (holds : Holds name contents s) :
    Holds name ((loadings eng name commands s).foldl Loading.leaves contents)
      (performAll eng commands s).2 := by
  induction commands generalizing s contents with
  | nil => exact holds
  | cons command rest ih =>
    rw [loadings, List.foldl_append]
    exact ih (perform_contents eng command name s holds)

/-- In a run of commands from a session without connections, whatever the error modes are, a statement
holds the columns, the rows and the changes that its making and its executions left, one after another.
After an execution that succeeded these are its own. After one that failed there are no rows and no
changes, but the columns are those of the latest load that did not fail. So then the statement is as
empty as one that was never executed exactly if that load had no columns. -/
theorem statement_contents (eng : Engine σ) (engine : σ) (commands : List Command) {name : String}
    {st : OwnedStatement} (known : (performAll eng commands (start engine)).2.statements.get? name = some st) :
    let loads := loadings eng name commands (start engine)
    st.statement.contents = loads.foldl Loading.leaves .empty ∧
      (∀ before r, loads = before ++ [.ran (.ok r)] → st.statement.contents = r.shown) ∧
      ∀ before e, loads = before ++ [.ran (.error e)] →
        st.statement.contents = ⟨(Loading.latestLoaded before).columns, [], 0⟩ ∧
          (st.statement.contents = .empty ↔ (Loading.latestLoaded before).columns = .empty) := by
  intro loads
  have held : st.statement.contents = loads.foldl Loading.leaves .empty := by
    have nothing : Holds name .empty (start engine) := by
      intro st there
      rw [start, OrderedMap.get?_empty] at there
      cases there
    exact performAll_contents eng commands name nothing st known
  refine ⟨held, ?_, ?_⟩
  · intro before r last
    rw [held, last, List.foldl_append]
    rfl
  · intro before e last
    have left : st.statement.contents = ⟨(Loading.latestLoaded before).columns, [], 0⟩ := by
      rw [held, last, List.foldl_append, ← Loading.columns_foldl]
      rfl
    refine ⟨left, ?_⟩
    rw [left]
    simp [RunResult.empty]

/-- A statement that is executed again holds the rows of the second execution. -/
theorem statement_contents_again :
    let commands : List Command := [.connect "c" "mysql-on-sqlite:path=p;dbname=d" .standard,
      .operate "c" (.prepare "SELECT ?") "q", .execute "q" [.int 1], .execute "q" [.int 2]]
    let run (i : Int64) : EngineEvent :=
      .compiled 8 ⟨1, [("?", none)], [[.integer i]], none, 0, 0, 0⟩
    let engine := Recording.ofEvents [.done, .done, run 0, run 1, run 2]
    ∃ st, (performAll Recording.engine commands (start engine)).2.statements.get? "q" = some st ∧
      st.statement.contents = ⟨⟨["?"], [none]⟩, [⟨⟨["?"], [none]⟩, [.int 2]⟩], 0⟩ := by
  intro commands run engine
  have there : ((performAll Recording.engine commands (start engine)).2.statements.get? "q").isSome := by
    decide +kernel
  obtain ⟨st, known⟩ := Option.isSome_iff_exists.mp there
  have loaded : (loadings Recording.engine "q" commands (start engine)).getLast?.map
      (fun | .made _ | .ran (.error _) => none | .ran (.ok r) => some r) =
        some (some ⟨⟨["?"], [none]⟩, [⟨⟨["?"], [none]⟩, [.int 2]⟩], 0⟩) := by decide +kernel
  obtain ⟨loading, last, succeeded⟩ := Option.map_eq_some_iff.mp loaded
  obtain ⟨before, split⟩ := List.getLast?_eq_some_iff.mp last
  refine ⟨st, known, ?_⟩
  match loading with
  | .made _ | .ran (.error _) => cases succeeded
  | .ran (.ok r) =>
    rw [(statement_contents Recording.engine engine commands known).2.1 before r split]
    cases succeeded
    decide +kernel

/-- A statement that gave a column keeps it when the next execution fails, and so it is not as empty as
one that was never executed. -/
theorem columns_outlive_failure :
    let commands : List Command := [.connect "c" "mysql-on-sqlite:path=p;dbname=d" .standard,
      .operate "c" (.prepare "SELECT 1") "q", .execute "q" [], .execute "q" [.int 1]]
    let run : EngineEvent := .compiled 8 ⟨0, [("1", none)], [[.integer 1]], none, 0, 0, 0⟩
    let engine := Recording.ofEvents [.done, .done, run, run, run]
    (loadings Recording.engine "q" commands (start engine)).getLast?.map
        (fun | .ran (.error e) => some e | _ => none) =
      some (some (engineError rangeCode "column index out of range" "SELECT 1")) ∧
    ((performAll Recording.engine commands (start engine)).2.statements.get? "q").map
        (fun st => (st.statement.columnCount, st.statement.rows, st.statement.rowCount)) =
      some (1, [], 0) ∧
    (Statement.ofSql "SELECT 1" none).columnCount = 0 := by
  decide +kernel

end Session
end SqlBridge
