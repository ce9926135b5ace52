import SqlBridge.Proofs.Fetch.Meaning
import SqlBridge.Proofs.Session.AcceptedMode
import SqlBridge.Proofs.Session.Reading
import SqlBridge.Proofs.Session.Twins

/-! # Every way to choose a mode gives the same row

A mode reaches a fetch in five ways: as a style with arguments that a query or a statement
was given, and as a mode that a query, a connection or the fetch itself was given. Modes
that mean the same style and arguments are interchangeable, whatever the way was.
-/

namespace SqlBridge.Session
variable {σ : Type} {eng : Engine σ} {engine : σ} {s s₀ s' : Session σ} {name : String}
  {id : ConnectionId} {st : Statement} {state : Connection.State} {style : FetchStyle}
  {args : List Argument} {asked : Option FetchMode}

/-- The mode of the next fetch from a statement comes from this style and these arguments, or from a
mode that spells them out. -/
inductive Way (eng : Engine σ) (engine : σ) (style : FetchStyle) (args : List Argument)
    (s : Session σ) (id : ConnectionId) (st : Statement) (state : Connection.State) :
    Option FetchMode → Prop where
  /-- The statement came from a query that was given the style. -/
  | styledQuery {s₀ : Session σ} {connection keepAs sql : String} {params : Dsn.Params}
      {objects : ObjectStore} {made : Statement} (reached : Later eng (start engine) s₀)
      (named : s₀.connections.get? connection = some ⟨id, params⟩)
      (replied : (Command.performOperation eng connection keepAs
        (.queryStyle objects sql (some style) args) s₀).1 = some (.ok (some made)))
      (later : Later eng s₀ s) (kept : st.mode = made.mode) : Way eng engine style args s id st state none
  /-- The statement was given the style. -/
  | styledStatement {s₀ : Session σ} {name₀ : String} {before after : Statement}
      (reached : Later eng (start engine) s₀)
      (there : s₀.statements.get? name₀ = some ⟨id, before⟩)
      (replied : (setFetchMode name₀ style args s₀).1 = some (.ok true))
      (left : (setFetchMode name₀ style args s₀).2.statements.get? name₀ = some ⟨id, after⟩)
      (later : Later eng s₀ s) (kept : st.mode = after.mode) : Way eng engine style args s id st state none
  /-- The statement came from a query that was given the mode. -/
  | typedQuery {s₀ : Session σ} {connection keepAs sql : String} {mode : FetchMode}
      {made : Statement} (spells : mode.Spells style args)
      (replied : (Command.performOperation eng connection keepAs (.queryMode sql mode) s₀).1 =
        some (.ok (some made)))
      (kept : st.mode = made.mode) : Way eng engine style args s id st state none
  /-- The statement has no mode, and the mode is the default of its connection. -/
  | default (spells : state.defaultMode.Spells style args) (unset : st.mode = none) :
      Way eng engine style args s id st state none
  /-- The fetch asks for the mode, whatever the mode of the statement and the default are. -/
  | asked {mode : FetchMode} (spells : mode.Spells style args) :
      Way eng engine style args s id st state (some mode)

/-- The classes of a statement's connection are those that it was opened with, each of them found by its
own name. -/
theorem classes_of_later {c : Connection} (reached : Later eng (start engine) s₀)
    (there : s₀.live.get? id = some c) (later : Later eng s₀ s)
    (found : s.statement? name = some (⟨id, st⟩, state)) :
    state.classes = c.state.classes ∧ state.classes.WellKeyed := by
  have opened : s₀.origin? id = some c.origin := by rw [origin?, there]; rfl
  obtain ⟨used, keyed⟩ := reached.origin_of_start opened
  obtain ⟨-, c', now, rfl⟩ := statement?_eq_some.mp found
  have opened' : s.origin? id = some c'.origin := by rw [origin?, now]; rfl
  have same : c'.state.classes = c.state.classes :=
    congrArg Connection.Origin.classes (later.origin_eq opened used opened')
  exact ⟨same, same ▸ keyed⟩

theorem means_of_style {c : Connection} {call : StyledCall} {objects : ObjectStore}
    (reached : Later eng (start engine) s₀) (there : s₀.live.get? id = some c)
    (later : Later eng s₀ s) (found : s.statement? name = some (⟨id, st⟩, state))
    (chose : call.chooseMode c.state.classes objects (some style) args = .ok st.mode) :
    (st.fetchMode state none).Means state.classes style args := by
  obtain ⟨same, keyed⟩ := classes_of_later reached there later found
  rw [← same] at chose
  obtain ⟨mode, chosen, means⟩ := StyledCall.means_of_chooseMode keyed chose
  rw [Statement.fetchMode, chosen]
  exact means

/-- Every way leads to a mode that means the style and the arguments. -/
theorem Way.means (way : Way eng engine style args s id st state asked)
    (found : s.statement? name = some (⟨id, st⟩, state)) {call : StyledCall} {objects : ObjectStore}
    {chosen : Option FetchMode}
    (accepted : call.chooseMode state.classes objects (some style) args = .ok chosen) :
    (st.fetchMode state asked).Means state.classes style args := by
  cases way with
  | @styledQuery s₀ connection keepAs sql params objects made reached named replied later kept =>
    obtain ⟨_, c, there, performed⟩ := perform_of_reply replied
    obtain ⟨named', known, rfl, live⟩ := atWork?_eq_some.mp there
    cases named.symm.trans known
    exact means_of_style reached live later found
      (kept ▸ Connection.chooseMode_of_queryStyle performed)
  | @styledStatement s₀ name₀ before after reached there replied left later kept =>
    obtain ⟨c, live, chose⟩ := chooseMode_of_setFetchMode there replied left
    exact means_of_style reached live later found (kept ▸ chose)
  | @typedQuery s₀ connection keepAs sql mode made spells replied kept =>
    obtain ⟨_, c, there, performed⟩ := perform_of_reply replied
    rw [Statement.fetchMode, kept, Connection.mode_of_queryMode performed]
    exact StyledCall.means_of_spells spells accepted
  | default spells unset =>
    rw [Statement.fetchMode, unset]
    exact StyledCall.means_of_spells spells accepted
  | asked spells => exact StyledCall.means_of_spells spells accepted

/-- A fetch from a statement, with the way in which its mode is chosen. -/
structure StyledFetch (eng : Engine σ) (engine : σ) (style : FetchStyle) (args : List Argument)
    (s : Session σ) (name : String) (asked : Option FetchMode) where
  id : ConnectionId
  statement : Statement
  state : Connection.State
  found : s.statement? name = some (⟨id, statement⟩, state)
  way : Way eng engine style args s id statement state asked

theorem fetch_objects {st : OwnedStatement} (found : s.statement? name = some (st, state))
    (asked : Option FetchMode) :
    (fetch eng name asked s).2.objects =
      match st.statement.current? with
      | none => s.objects
      | some row =>
        (st.statement.fetchMode state asked).storeAfter state.layoutSettings row s.objects := by
  rw [fetch_found found, Statement.run_fetch]
  cases st.statement.current? with
  | none => rfl
  | some row =>
    simp only
    rw [← layOut_store (respond eng) _ _ _ _ s]
    split <;> rfl

theorem layoutOf_of_means {state' : Connection.State} {mode mode' : FetchMode}
    (means : mode.Means state.classes style args) (means' : mode'.Means state.classes style args)
    (settings : state'.layoutSettings = state.layoutSettings) (twins : Twins true s s') (row : Row) :
    layoutOf eng s' state' row mode' = layoutOf eng s state row mode := by
  let work := layOut state.layoutSettings row mode s.objects
  have same : (work.run (respond eng) s').1 = (work.run (respond eng) s).1 :=
    (twins.run (.refl eng s work)).1
  rw [layoutOf, settings, means.layOut_eq means', layOut_outcome _ _ _ _ s.objects]
  exact congrArg Prod.fst same

/-- Whichever way the mode of a fetch was chosen, the row is laid out as in any mode that spells out the
style and the arguments. So two fetches of the same row with the same settings, each with its own way, reply
the same in twin sessions, and an object that they fill is left with the same contents if it had the same. -/
theorem every_way_same_row (eng : Engine σ) (engine : σ) {name' : String}
    {asked' : Option FetchMode} (f : StyledFetch eng engine style args s name asked)
    (f' : StyledFetch eng engine style args s' name' asked') {call : StyledCall}
    {objects : ObjectStore} {chosen : Option FetchMode}
    (accepted : call.chooseMode f.state.classes objects (some style) args = .ok chosen)
    (row : f'.statement.current? = f.statement.current?)
    (settings : f'.state.layoutSettings = f.state.layoutSettings) (twins : Twins true s s')
    (contents : ∀ target, .object target ∈ args → s'.objects.get target = s.objects.get target) :
    let after := fetch eng name asked s
    let after' := fetch eng name' asked' s'
    (∀ mode : FetchMode, mode.Spells style args →
      after.1 = some (replyIn eng s f.statement f.state mode)) ∧
    after'.1 = after.1 ∧
    ∀ target, .object target ∈ args → after'.2.objects.get target = after.2.objects.get target := by
  intro after after'
  have classes : f'.state.classes = f.state.classes := congrArg LayoutSettings.classes settings
  have means := f.way.means f.found accepted
  have means' : (f'.statement.fetchMode f'.state asked').Means f.state.classes style args := by
    rw [← classes] at accepted ⊢
    exact f'.way.means f'.found accepted
  refine ⟨?_, ?_, ?_⟩
  · intro mode spells
    have spelled := StyledCall.means_of_spells spells accepted
    rw [show after.1 = _ from fetch_reply f.found asked, replyIn, replyIn]
    cases f.statement.current? with
    | none => rfl
    | some row => simp only [layoutOf_of_means spelled means rfl (.refl s)]
  · rw [show after.1 = _ from fetch_reply f.found asked,
      show after'.1 = _ from fetch_reply f'.found asked', replyIn, replyIn, row]
    cases f.statement.current? with
    | none => rfl
    | some row => simp only [layoutOf_of_means means means' settings twins]
  · intro target given
    rw [show after.2.objects = _ from fetch_objects f.found asked,
      show after'.2.objects = _ from fetch_objects f'.found asked', row, settings]
    cases f.statement.current? with
    | none => exact contents target given
    | some row => exact means.get_storeAfter means' _ row given (contents target given)

/-! ## One late mode in three spellings -/

namespace LateMode

/-- A class whose constructor keeps its argument and asks the connection a question. -/
def asking : ObjectClass :=
  ⟨"P", some (.ofActions [.set "x" (.argument 0), .set "t" (.request "c" .inTransaction)])⟩

def options : ConnectionOptions :=
  { ConnectionOptions.standard with
    stringify := false
    defaultMode := .ofClass "\\P" [.int 7] true
    classes := ClassTable.standard.insertAll [asking] }

def scripted : Recording :=
  let run : EngineEvent := .compiled 8 ⟨0, [("1", none)], [[.integer 1]], none, 0, 0, 0⟩
  .ofEvents [.done, .done, run, run, run]

def arguments : List Argument := [.scalar (.text "p"), .array [.int 7]]

/-- The mode that the style and the arguments choose. -/
def mode : FetchMode := .ofClass "P" [.int 7] true

def connected : Session Recording :=
  (performAll Recording.engine [.connect "c" "mysql-on-sqlite:path=p;dbname=d" options]
    (start scripted)).2

/-- One statement came with the style, one with another mode, and one with none. -/
def queried : Session Recording :=
  (performAll Recording.engine [
    .operate "c" (.queryStyle .empty "SELECT 1" (some .ofClassLate) arguments) "styled",
    .operate "c" (.queryMode "SELECT 1" .num) "typed",
    .operate "c" (.query "SELECT 1") "plain"] connected).2

def row : Row := ⟨⟨["1"], [none]⟩, [.int 1]⟩

theorem later_connected : Later Recording.engine (start scripted) connected := by
  apply later_performAll
  simp only [List.forall_mem_cons]
  exact ⟨⟨[asking], rfl⟩, by simp⟩

theorem later_queried : Later Recording.engine connected queried := by
  apply later_performAll
  simp only [List.forall_mem_cons]
  exact ⟨trivial, trivial, trivial, by simp⟩

theorem spells {text : String} (same : ClassTable.lookupName text = ClassTable.lookupName "p") :
    (FetchMode.ofClass text [.int 7] true).Spells .ofClassLate arguments :=
  .ofClass true same rfl

theorem connected_named : ∃ params, connected.connections.get? "c" = some ⟨0, params⟩ := by
  have known : (connected.connections.get? "c").map NamedConnection.id = some 0 := by decide +kernel
  obtain ⟨⟨id, params⟩, named, rfl⟩ := Option.map_eq_some_iff.mp known
  exact ⟨params, named⟩

theorem styled_made :
    ∃ made, (Command.performOperation Recording.engine "c" "styled"
      (.queryStyle .empty "SELECT 1" (some .ofClassLate) arguments) connected).1 =
        some (.ok (some made)) ∧ made.mode = some mode := by
  have agreed : (Command.performOperation Recording.engine "c" "styled"
      (.queryStyle .empty "SELECT 1" (some .ofClassLate) arguments) connected).1.map
        (fun | .ok st? => st?.map Statement.mode | .error _ => none) = some (some (some mode)) := by
    decide +kernel
  obtain ⟨answer, replied, agreed⟩ := Option.map_eq_some_iff.mp agreed
  rcases answer with e | (_ | made)
  · cases agreed
  · cases agreed
  · exact ⟨made, replied, Option.some_inj.mp agreed⟩

/-- The connection of the statements has the mode as its default, and the style still chooses it. -/
theorem queried_live :
    ∃ c, queried.live.get? 0 = some c ∧ c.state.defaultMode = .ofClass "\\P" [.int 7] true ∧
      StyledCall.query.chooseMode c.state.classes .empty (some .ofClassLate) arguments =
        .ok (some mode) := by
  have alive : (queried.live.get? 0).map (fun c => (c.state.defaultMode,
      (StyledCall.query.chooseMode c.state.classes .empty (some .ofClassLate) arguments).toOption)) =
        some (.ofClass "\\P" [.int 7] true, some (some mode)) := by
    decide +kernel
  obtain ⟨c, there, same⟩ := Option.map_eq_some_iff.mp alive
  obtain ⟨default_, accepts⟩ := Prod.mk.inj same
  refine ⟨c, there, default_, ?_⟩
  cases chosen : StyledCall.query.chooseMode c.state.classes .empty (some .ofClassLate) arguments with
  | ok chosen? =>
    rw [chosen] at accepts
    exact congrArg Except.ok (Option.some_inj.mp accepts)
  | error e =>
    rw [chosen] at accepts
    cases accepts

section Fetches
variable {c : Connection}

theorem queried_statement? (there : queried.live.get? 0 = some c) (name : String)
    (mode? : Option FetchMode)
    (shown : (queried.statements.get? name).map (fun st =>
      (st.owner, st.statement.mode, st.statement.current?)) = some (0, mode?, some row)) :
    ∃ st, queried.statement? name = some (⟨0, st⟩, c.state) ∧ st.mode = mode? ∧
      st.current? = some row := by
  obtain ⟨⟨id, st⟩, found, same⟩ := Option.map_eq_some_iff.mp shown
  simp only [Prod.mk.injEq] at same
  obtain ⟨rfl, kept, current⟩ := same
  exact ⟨st, statement?_eq_some.mpr ⟨found, c, there, rfl⟩, kept, current⟩

theorem styled (there : queried.live.get? 0 = some c) :
    ∃ f : StyledFetch Recording.engine scripted .ofClassLate arguments queried "styled" none,
      f.state = c.state ∧ f.statement.current? = some row := by
  obtain ⟨params, named⟩ := connected_named
  obtain ⟨made, replied, made_mode⟩ := styled_made
  obtain ⟨st, found, kept, current⟩ :=
    queried_statement? there "styled" (some mode) (by decide +kernel)
  exact ⟨⟨0, st, c.state, found, .styledQuery later_connected named replied later_queried
    (kept.trans made_mode.symm)⟩, rfl, current⟩

theorem typed (there : queried.live.get? 0 = some c) :
    ∃ f : StyledFetch Recording.engine scripted .ofClassLate arguments queried "typed"
        (some (.ofClass "\\p" [.int 7] true)),
      f.state = c.state ∧ f.statement.current? = some row := by
  obtain ⟨st, found, -, current⟩ :=
    queried_statement? there "typed" (some .num) (by decide +kernel)
  exact ⟨⟨0, st, c.state, found, .asked (spells (by decide +kernel))⟩, rfl, current⟩

theorem plain (there : queried.live.get? 0 = some c)
    (default_ : c.state.defaultMode = .ofClass "\\P" [.int 7] true) :
    ∃ f : StyledFetch Recording.engine scripted .ofClassLate arguments queried "plain" none,
      f.state = c.state ∧ f.statement.current? = some row := by
  obtain ⟨st, found, unset, current⟩ :=
    queried_statement? there "plain" none (by decide +kernel)
  have spelled : c.state.defaultMode.Spells .ofClassLate arguments := by
    rw [default_]
    exact spells (by decide +kernel)
  exact ⟨⟨0, st, c.state, found, .default spelled unset⟩, rfl, current⟩

end Fetches
end LateMode

open LateMode in
/-- The row is the same for a query with a style, for a fetch that asks for the mode where the statement
has another, and by default. The class is spelled in another way each time, and its constructor calls back. -/
theorem every_way_same_row_late :
    let reply := (fetch Recording.engine "styled" none queried).1
    (reply.bind Except.toOption).join.map (fun row =>
        ["x", "t", "1"].map fun key => row.get? .empty (.name key)) =
      some [some (.int 7), some (.bool false), some (.int 1)] ∧
    (fetch Recording.engine "typed" (some (.ofClass "\\p" [.int 7] true)) queried).1 = reply ∧
    (fetch Recording.engine "plain" none queried).1 = reply := by
  obtain ⟨c, there, default_, accepted⟩ := queried_live
  obtain ⟨f, ofStyle, current⟩ := styled there
  obtain ⟨f', ofMode, current'⟩ := typed there
  obtain ⟨f'', byDefault, current''⟩ := plain there default_
  rw [← ofStyle] at accepted ofMode byDefault
  obtain ⟨-, asked, -⟩ := every_way_same_row Recording.engine scripted f f' accepted
    (current'.trans current.symm) (congrArg _ ofMode) (.refl queried) fun _ _ => rfl
  obtain ⟨-, default_, -⟩ := every_way_same_row Recording.engine scripted f f'' accepted
    (current''.trans current.symm) (congrArg _ byDefault) (.refl queried) fun _ _ => rfl
  exact ⟨by decide +kernel, asked, default_⟩

end SqlBridge.Session
