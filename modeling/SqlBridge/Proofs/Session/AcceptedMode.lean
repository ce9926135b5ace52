import SqlBridge.Class.Script
import SqlBridge.Proofs.Session.LastError
import SqlBridge.Proofs.Session.Origins

/-! # Accepted modes

A mode is accepted when a query or a statement chooses it with a style, or when it
becomes the default mode of a connection. The definition that its class had then
is the one that every later fetch of that connection finds, since the classes of
a connection stay as they are.
-/

namespace SqlBridge

namespace Connection
variable {σ : Type} {eng : Engine σ} {r : Running σ}

theorem chooseMode_of_queryStyle {objects : ObjectStore} {sql : String} {style : Option FetchStyle}
    {args : List Argument} {st : Statement}
    (made : ((Operation.queryStyle objects sql style args).perform eng r).1 = .ok (some st)) :
    StyledCall.query.chooseMode r.connection.state.classes objects style args = .ok st.mode := by
  obtain ⟨st', succeeded, same⟩ := outcome_of_made made rfl
  obtain rfl : st' = st := Option.some_inj.mp same
  simp only [Operation.outcome, Operation.attempt] at succeeded
  split at succeeded
  · cases succeeded
  · cases chosen : StyledCall.query.chooseMode r.connection.state.classes objects style args with
    | error e =>
      rw [chosen] at succeeded
      cases succeeded
    | ok mode =>
      rw [chosen] at succeeded
      obtain ⟨_, _, -, rfl⟩ := Operation.attemptQuery_ok succeeded
      rfl

theorem mode_of_queryMode {sql : String} {mode : FetchMode} {st : Statement}
    (made : ((Operation.queryMode sql mode).perform eng r).1 = .ok (some st)) :
    st.mode = some mode := by
  obtain ⟨st', succeeded, same⟩ := outcome_of_made made rfl
  obtain rfl : st' = st := Option.some_inj.mp same
  obtain ⟨_, _, -, rfl⟩ := Operation.attemptQuery_ok succeeded
  rfl

end Connection

theorem Statement.chooseMode_of_setFetchMode {st : Statement} {state : Connection.State}
    {objects : ObjectStore} {style : FetchStyle} {args : List Argument}
    (accepted : (st.setFetchMode state objects style args).1 = .ok true) :
    StyledCall.setFetchMode.chooseMode state.classes objects (some style) args =
      .ok (st.setFetchMode state objects style args).2.mode := by
  rw [setFetchMode] at accepted ⊢
  cases chosen : StyledCall.setFetchMode.chooseMode state.classes objects (some style) args with
  | error e =>
    rw [chosen] at accepted
    cases accepted
  | ok mode => rfl

/-- A write of the default mode is accepted only if its class is known. -/
theorem Connection.State.resolves_of_set {state : State} {v : AttributeValue}
    (accepted : (state.set .defaultFetchMode v).1 = true) :
    let mode := (state.set .defaultFetchMode v).2.1.defaultMode
    mode.Resolves state.classes false (mode.definition? state.classes) := by
  have known : ∀ mode : FetchMode, state.acceptsDefault mode = true →
      mode.Resolves state.classes false (mode.definition? state.classes) := by
    intro mode accepts
    refine ⟨rfl, ?_⟩
    rintro className given late rfl
    obtain ⟨c, found⟩ := Option.isSome_iff_exists.mp accepts
    exact ⟨c, found, by simp⟩
  rw [set] at accepted ⊢
  cases written : state.set? .defaultFetchMode v with
  | none =>
    rw [written] at accepted
    cases accepted
  | some state' =>
    cases v with
    | fetchMode mode =>
      rw [set?] at written
      split at written
      next accepts =>
        cases written
        exact known mode accepts
      next => cases written
    | int code =>
      obtain ⟨mode, plain, rfl⟩ := Option.map_eq_some_iff.mp written
      obtain ⟨style, -, plain⟩ := Option.bind_eq_some_iff.mp plain
      apply known
      cases style <;> cases plain <;> rfl
    | bool | text | errorMode => cases written

namespace Session
variable {σ : Type} {eng : Engine σ} {s s' : Session σ} {id : ConnectionId} {mode : FetchMode}
  {styled : Bool} {named : Option ObjectClass}

/-- The connection accepts the mode in this session, for a new statement, for a statement that is there
or, by a command or a request, as its default. With it goes the definition of the class that the caller
names. -/
inductive Accepts (eng : Engine σ) (s : Session σ) (id : ConnectionId) (mode : FetchMode) :
    (styled : Bool) → Option ObjectClass → Prop where
  | query {connection keepAs sql : String} {params : Dsn.Params} {c : Connection}
      {objects : ObjectStore} {style : Option FetchStyle} {args : List Argument} {st : Statement}
      (named : s.connections.get? connection = some ⟨id, params⟩) (there : s.live.get? id = some c)
      (replied : (Command.performOperation eng connection keepAs (.queryStyle objects sql style args)
        s).1 = some (.ok (some st)))
      (chosen : st.mode = some mode) :
      Accepts eng s id mode true (Argument.definition? c.state.classes args)
  | choose {name : String} {st st' : Statement} {c : Connection} {style : FetchStyle}
      {args : List Argument} (named : s.statements.get? name = some ⟨id, st⟩)
      (there : s.live.get? id = some c) (replied : (setFetchMode name style args s).1 = some (.ok true))
      (after : (setFetchMode name style args s).2.statements.get? name = some ⟨id, st'⟩)
      (chosen : st'.mode = some mode) :
      Accepts eng s id mode true (Argument.definition? c.state.classes args)
  | default {connection : String} {params : Dsn.Params} {c c' : Connection} {v : AttributeValue}
      (named : s.connections.get? connection = some ⟨id, params⟩) (there : s.live.get? id = some c)
      (replied : (onConnection connection (Connection.setAttribute .defaultFetchMode v) s).1 = some true)
      (after : (onConnection connection (Connection.setAttribute .defaultFetchMode v) s).2.live.get? id =
        some c')
      (chosen : c'.state.defaultMode = mode) :
      Accepts eng s id mode false (mode.definition? c.state.classes)

theorem chooseMode_of_setFetchMode {name : String} {st st' : Statement} {style : FetchStyle}
    {args : List Argument} (named : s.statements.get? name = some ⟨id, st⟩)
    (replied : (setFetchMode name style args s).1 = some (.ok true))
    (after : (setFetchMode name style args s).2.statements.get? name = some ⟨id, st'⟩) :
    ∃ c, s.live.get? id = some c ∧ StyledCall.setFetchMode.chooseMode c.state.classes s.objects
      (some style) args = .ok st'.mode := by
  cases known : s.statement? name with
  | none =>
    rw [setFetchMode_missing known] at replied
    cases replied
  | some both =>
    obtain ⟨owned, state⟩ := both
    obtain ⟨named', c, there, rfl⟩ := statement?_eq_some.mp known
    obtain rfl : ⟨id, st⟩ = owned := Option.some_inj.mp (named.symm.trans named')
    simp only [setFetchMode_found known, Option.some_inj] at replied after
    have kept : some (OwnedStatement.mk id (st.setFetchMode c.state s.objects style args).2) =
        some ⟨id, st'⟩ := by
      rw [← after]
      exact ((OrderedMap.get?_insert _ _ _ _).trans (if_pos rfl)).symm
    cases kept
    exact ⟨c, there, Statement.chooseMode_of_setFetchMode replied⟩

theorem Accepts.resolves (accepts : Accepts eng s id mode styled named)
    (keyed : ∀ o, s.origin? id = some o → o.classes.WellKeyed) :
    ∃ o, s.origin? id = some o ∧ mode.Resolves o.classes styled named := by
  cases accepts with
  | @query connection keepAs sql params c objects style args st named there replied chosen =>
    have opened : s.origin? id = some c.origin := by rw [origin?, there]; rfl
    rw [performOperation_reply, onConnection_apply, named] at replied
    simp only [onShared_found there, Option.some_inj] at replied
    have accepted := Connection.chooseMode_of_queryStyle replied
    rw [chosen] at accepted
    exact ⟨c.origin, opened, StyledCall.resolves_of_chooseMode (keyed _ opened) accepted⟩
  | @choose name st st' c style args named there replied after chosen =>
    have opened : s.origin? id = some c.origin := by rw [origin?, there]; rfl
    obtain ⟨c', there', accepted⟩ := chooseMode_of_setFetchMode named replied after
    cases there.symm.trans there'
    rw [chosen] at accepted
    exact ⟨c.origin, opened, StyledCall.resolves_of_chooseMode (keyed _ opened) accepted⟩
  | @default connection params c c' v named there replied after chosen =>
    have opened : s.origin? id = some c.origin := by rw [origin?, there]; rfl
    simp only [onConnection_apply, named, onShared_found there, Option.some_inj] at replied after
    rw [OrderedMap.get?_insert, if_pos rfl, Option.some_inj] at after
    refine ⟨c.origin, opened, ?_⟩
    rw [← chosen, ← after]
    exact Connection.State.resolves_of_set replied

/-- A mode that a connection has accepted finds its class by the definition that it had then, in every
later session. So a fetch with it fails only with what the constructor of that definition raised, and
fetching all rows only where one of its fetches fails. -/
theorem accepted_mode_resolves (eng : Engine σ) (engine : σ)
    (reached : Later eng (start engine) s) (accepts : Accepts eng s id mode styled named)
    (later : Later eng s s') {name : String} {asked : Option FetchMode} {st : Statement}
    {state : Connection.State} (found : s'.statement? name = some (⟨id, st⟩, state))
    (used : st.fetchMode state asked = mode) :
    mode.Resolves state.classes styled named ∧
      (∃ reply, (fetch eng name asked s').1 = some reply ∧
        ∀ e, reply = .error e → ∃ className given late c row,
          mode = .ofClass className given late ∧ named = some c ∧ st.current? = some row ∧
            ((c.runConstructor (c.given late (Layout.columnPairs state.layoutSettings row)) given).run
              (respond eng) s').1.2 = .error e) ∧
      ∀ e, (fetchAll eng name asked s').1 = some (.error e) →
        ∃ s'', Later eng s' s'' ∧ (fetch eng name asked s'').1 = some (.error e) := by
  obtain ⟨o, there, resolves⟩ := accepts.resolves fun o there => (reached.origin_of_start there).2
  obtain ⟨-, c, now, rfl⟩ := statement?_eq_some.mp found
  have opened : s'.origin? id = some c.origin := by rw [origin?, now]; rfl
  have same : c.origin = o := later.origin_eq there (reached.origin_of_start there).1 opened
  have resolves : mode.Resolves c.state.classes styled named := by
    rw [← same] at resolves
    exact resolves
  refine ⟨resolves, ?_, fun e => fetchAll_error⟩
  rw [fetch_found found]
  refine ⟨_, rfl, ?_⟩
  intro e failed
  rw [Statement.run_fetch, used] at failed
  cases current : st.current? with
  | none =>
    rw [current] at failed
    cases failed
  | some row =>
    rw [current] at failed
    simp only at failed
    have failed : ((layOut c.state.layoutSettings row mode s'.objects).run (respond eng) s').1.1 =
        .error e := by
      split at failed
      · cases failed
      next raised =>
        cases failed
        exact raised
    have known : ∀ className given late, mode = .ofClass className given late →
        (c.state.layoutSettings.classes.find? className).isSome := by
      intro className given late chosen
      obtain ⟨definition, found, -⟩ := resolves.known className given late chosen
      have resolved := resolves.definition
      rw [chosen, found] at resolved
      exact Option.isSome_of_eq_some resolved
    obtain ⟨className, given, late, definition, chosen, found, raised⟩ := layOut_error known failed
    refine ⟨className, given, late, definition, row, chosen, ?_, rfl, raised⟩
    rw [← resolves.definition, chosen]
    exact found

/-! ## A class that is registered twice -/

namespace Replaced

/-- The names differ in case alone, and begin with more than one backslash. -/
def classes : List ObjectClass :=
  [⟨"\\\\P", none⟩, ⟨"\\\\p", some (.ofActions [.fail (.sequence "no")])⟩]

def options : ConnectionOptions :=
  { ConnectionOptions.standard with classes := ClassTable.standard.insertAll classes }

def scripted : Recording :=
  .ofEvents [.done, .done, .compiled 8 ⟨0, [("1", none)], [[.integer 1]], none, 0, 0, 0⟩]

def queried : Session Recording :=
  (performAll Recording.engine [.connect "c" "mysql-on-sqlite:path=p;dbname=d" options,
    .operate "c" (.query "SELECT 1") "q"] (start scripted)).2

def arguments : List Argument := [.scalar (.text "\\\\P"), .array [.int 7]]

def meant : FetchMode := .ofClass "\\\\p" [.int 7] false

def chosen : Session Recording :=
  (performAll Recording.engine [.setFetchMode "q" .ofClass arguments,
    .setAttribute "c" .stringifyFetches (.bool false)] queried).2

theorem later_queried : Later Recording.engine (start scripted) queried := by
  apply later_performAll
  simp only [List.forall_mem_cons]
  exact ⟨⟨classes, rfl⟩, trivial, by simp⟩

theorem later_chosen : Later Recording.engine queried chosen := by
  apply later_performAll
  simp only [List.forall_mem_cons]
  exact ⟨trivial, trivial, by simp⟩

theorem setFetchMode_queried :
    (setFetchMode "q" .ofClass arguments queried).1 = some (.ok true) := by
  have agreed : (setFetchMode "q" .ofClass arguments queried).1.map Except.toOption =
      some (some true) := by
    decide +kernel
  obtain ⟨reply, replied, accepted⟩ := Option.map_eq_some_iff.mp agreed
  cases reply with
  | error e => cases accepted
  | ok b => rw [replied, Option.some_inj.mp accepted]

theorem accepts_meant :
    ∃ c, queried.live.get? 0 = some c ∧
      Accepts Recording.engine queried 0 meant true (c.state.classes.find? "\\\\P") := by
  have owner : (queried.statements.get? "q").map OwnedStatement.owner = some 0 := by decide +kernel
  obtain ⟨⟨id, st⟩, named, rfl⟩ := Option.map_eq_some_iff.mp owner
  have alive : (queried.live.get? 0).isSome := by decide +kernel
  obtain ⟨c, there⟩ := Option.isSome_iff_exists.mp alive
  have changed : ((setFetchMode "q" .ofClass arguments queried).2.statements.get? "q").map
      (fun owned => (owned.owner, owned.statement.mode)) = some (0, some meant) := by decide +kernel
  obtain ⟨⟨id, st'⟩, after, same⟩ := Option.map_eq_some_iff.mp changed
  obtain ⟨rfl, became⟩ := Prod.mk.inj same
  exact ⟨c, there, .choose named there setFetchMode_queried after became⟩

theorem chosen_statement? :
    ∃ st state, chosen.statement? "q" = some (⟨0, st⟩, state) ∧ st.fetchMode state none = meant := by
  have standing : (chosen.statement? "q").map
      (fun known => (known.1.owner, known.1.statement.fetchMode known.2 none)) = some (0, meant) := by
    decide +kernel
  obtain ⟨⟨⟨id, st⟩, state⟩, found, same⟩ := Option.map_eq_some_iff.mp standing
  obtain ⟨rfl, used⟩ := Prod.mk.inj same
  exact ⟨st, state, found, used⟩

theorem fetch_chosen :
    (fetch Recording.engine "q" none chosen).1 = some (.error (.sequence "no")) := by
  have refused : (fetch Recording.engine "q" none chosen).1.map
      (fun | .ok _ => none | .error e => some e) = some (some (.sequence "no")) := by
    decide +kernel
  obtain ⟨reply, fetched, failed⟩ := Option.map_eq_some_iff.mp refused
  cases reply with
  | ok row? => cases failed
  | error e => rw [fetched, Option.some_inj.mp failed]

end Replaced

open Replaced in
/-- The later definition is meant when a statement chooses the class and when the statement is fetched
from. -/
theorem accepted_mode_resolves_replaced :
    ∃ c st state, queried.live.get? 0 = some c ∧ chosen.statement? "q" = some (⟨0, st⟩, state) ∧
      meant.Resolves state.classes true (c.state.classes.find? "\\\\P") ∧
      (fetch Recording.engine "q" none chosen).1 = some (.error (.sequence "no")) := by
  obtain ⟨c, there, accepts⟩ := accepts_meant
  obtain ⟨st, state, found, used⟩ := chosen_statement?
  obtain ⟨resolves, -, -⟩ :=
    accepted_mode_resolves Recording.engine scripted later_queried accepts later_chosen found used
  exact ⟨c, st, state, there, found, resolves, fetch_chosen⟩

end Session
end SqlBridge
