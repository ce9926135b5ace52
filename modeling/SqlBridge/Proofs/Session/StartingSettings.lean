import SqlBridge.Class.Script
import SqlBridge.Engine.Recording
import SqlBridge.Proofs.Connection.Settings
import SqlBridge.Proofs.Fetch.ByName
import SqlBridge.Proofs.Fetch.ChosenMode
import SqlBridge.Proofs.Session.Reading
import SqlBridge.Proofs.Session.Twins

/-! # The settings that a fetch uses

A fetch in a class mode reads the settings of its connection once, when it begins.
What the constructor then writes to them is left for the next fetch, also for the
next one of the same fetch of all rows, and plays no part in this one.
-/

namespace SqlBridge.Session
open Connection
variable {σ α : Type} {eng : Engine σ} {s s' : Session σ} {id : ConnectionId} {c : Connection}

section Writes

def requestWrites (id : ConnectionId) (connection : String) (request : Request) (s : Session σ) :
    List (Attribute × AttributeValue) :=
  if (s.atWork? connection).map Prod.fst = some id then request.writes else []

/-- The writes to the attributes of a shared connection that work makes, in order. -/
def calloutWrites (eng : Engine σ) (id : ConnectionId) :
    Callout α → Session σ → List (Attribute × AttributeValue)
  | .done _, _ => []
  | .ask connection request next, s =>
    let after := respond eng connection request s
    requestWrites id connection request s ++ calloutWrites eng id (next after.1) after.2

theorem respond_settings (eng : Engine σ) (there : s.live.get? id = some c) (connection : String)
    (request : Request) :
    ∃ c', (respond eng connection request s).2.live.get? id = some c' ∧
      (c.state.setAll (requestWrites id connection request s)).SameSettings c'.state := by
  change ∃ c', (onConnection connection (Connection.respond eng request) s).2.live.get? id = _ ∧ _
  rw [requestWrites]
  cases working : s.atWork? connection with
  | none =>
    rw [onConnection_idle working]
    exact ⟨c, there, .refl _⟩
  | some at_ =>
    obtain ⟨here, c₀⟩ := at_
    obtain ⟨-, -, -, live⟩ := atWork?_eq_some.mp working
    simp only [onConnection_atWork working, onShared_found live, OrderedMap.get?_insert,
      Option.map_some, Option.some_inj]
    by_cases same : here = id
    · subst same
      cases there.symm.trans live
      simp only [if_true]
      exact ⟨_, rfl, Connection.respond_settings eng request ⟨s.engine, c, s.warnings⟩⟩
    · simp only [if_neg same]
      exact ⟨c, there, .refl _⟩

theorem run_settings (eng : Engine σ) (work : Callout α) (there : s.live.get? id = some c) :
    ∃ c', (work.run (respond eng) s).2.live.get? id = some c' ∧
      (c.state.setAll (calloutWrites eng id work s)).SameSettings c'.state := by
  induction work generalizing s c with
  | done a => exact ⟨c, there, .refl _⟩
  | ask connection request next ih =>
    obtain ⟨c₁, there₁, first⟩ := respond_settings eng there connection request
    obtain ⟨c', there', rest⟩ := ih (respond eng connection request s).1 there₁
    refine ⟨c', there', ?_⟩
    rw [calloutWrites, State.setAll_append]
    exact (first.setAll _).trans rest

end Writes

/-- The object of a class mode is what the constructor leaves of the given one, with the columns if
these come late. -/
theorem run_ofClass {τ : Type} (respond : String → Request → StateM τ Answer) (c : ObjectClass)
    (args : List Value) (late : Bool) (pairs : List (String × Value)) (s : τ) :
    (Layout.ofClass c args late pairs).run respond s =
      let built := (c.runConstructor (c.given late pairs) args).run respond s
      (built.1.2.map fun _ => if late then built.1.1.assign pairs else built.1.1, built.2) := by
  cases late with
  | true => exact Callout.run_map _ _ s
  | false => exact Callout.run_map _ _ s

/-- A fetch in a class mode at the moment that it begins: the statement with the state of its connection,
the current row, and the mode with the definition of its class. -/
structure ClassFetch (s : Session σ) (name : String) (asked : Option FetchMode) where
  statement : OwnedStatement
  state : State
  row : Row
  className : String
  args : List Value
  late : Bool
  definition : ObjectClass
  found : s.statement? name = some (statement, state)
  current : statement.statement.current? = some row
  mode : statement.statement.fetchMode state asked = .ofClass className args late
  known : state.classes.find? className = some definition

namespace ClassFetch
variable {name name' : String} {asked asked' : Option FetchMode} (f : ClassFetch s name asked)
  (g : ClassFetch s' name' asked')

def pairs : List (String × Value) := Layout.columnPairs f.state.layoutSettings f.row

def given : Object := f.definition.given f.late f.pairs

def workOn (o : Object) : Callout (Object × Except Error Unit) :=
  f.definition.runConstructor o f.args

def finish (o : Object) : Object := if f.late then o.assign f.pairs else o

variable (eng : Engine σ)

/-- What the constructor leaves, and the session after its work. -/
def constructed : (Object × Except Error Unit) × Session σ := (f.workOn f.given).run (respond eng) s

def object : Except Error Object :=
  (f.constructed eng).1.2.map fun _ => f.finish (f.constructed eng).1.1

def next : Statement :=
  if (f.object eng).isOk then f.statement.statement.next else f.statement.statement

/-- The state of the start with the writes of the constructor. -/
def left : State := f.state.setAll (calloutWrites eng f.statement.owner (f.workOn f.given) s)

/-- What the next fetch replies: the next row is laid out with the settings that were left behind. -/
def nextReply (asked' : Option FetchMode) : Except Error (Option FetchedRow) :=
  replyIn eng (fetch eng name asked s).2 (f.next eng) (f.left eng)
    ((asked'.or f.statement.statement.mode).getD (f.left eng).defaultMode)

/-- The other fetch begins in the same way: with the same columns, stringified or not, for an object of
the same class, and with the constructor at the same time. -/
structure StartsLike : Prop where
  row : g.row = f.row
  stringifies : g.state.layoutSettings.stringifies = f.state.layoutSettings.stringifies
  className : g.definition.name = f.definition.name
  late : g.late = f.late

variable {f g} {eng}

theorem StartsLike.pairs (alike : f.StartsLike g) : g.pairs = f.pairs := by
  rw [ClassFetch.pairs, Layout.columnPairs, alike.row, alike.stringifies]
  rfl

theorem StartsLike.given (alike : f.StartsLike g) : g.given = f.given := by
  simp only [ClassFetch.given, ObjectClass.given, ObjectClass.newObject, alike.pairs, alike.className,
    alike.late]

theorem StartsLike.finish (alike : f.StartsLike g) (o : Object) : g.finish o = f.finish o := by
  rw [ClassFetch.finish, ClassFetch.finish, alike.pairs, alike.late]

/-- A column stands in the object under its name, with the settings of the start: in the one that the
constructor is given or, if the columns come late, in the one that is handed out. -/
theorem get?_column {column : String} {v : Value}
    (last : OrderedMap.lookup column f.pairs.reverse = some v) :
    (f.late = false → f.given.get? column = some v) ∧
      (f.late = true → ∀ o, f.object eng = .ok o → o.get? column = some v) := by
  have assigned (o : Object) : (o.assign f.pairs).get? column = some v := by
    rw [Object.get?_assign, last]
    rfl
  refine ⟨fun early => ?_, fun late o made => ?_⟩
  · rw [ClassFetch.given, ObjectClass.given, early]
    exact assigned _
  · rw [ClassFetch.object] at made
    cases ended : (f.constructed eng).1.2 with
    | error e =>
      rw [ended] at made
      cases made
    | ok _ =>
      rw [ended, finish, late] at made
      cases made
      exact assigned _

/-- The object is the same in a twin session if the constructor differs in its writes of attributes. -/
theorem StartsLike.object (alike : f.StartsLike g) {sameModes : Bool} (twins : Twins sameModes s s')
    (works : AlikeButWrites eng sameModes s (f.workOn f.given) (g.workOn f.given)) :
    g.object eng = f.object eng := by
  have same : (g.constructed eng).1 = (f.constructed eng).1 := by
    rw [constructed, alike.given]
    exact (twins.run works).1
  simp only [ClassFetch.object, same, alike.finish]

variable (f eng)

theorem run_layOut :
    (layOut f.state.layoutSettings f.row (.ofClass f.className f.args f.late) s.objects).run
      (respond eng) s = (((f.object eng).map .object, s.objects), (f.constructed eng).2) := by
  have known : f.state.layoutSettings.classes.find? f.className = some f.definition := f.known
  simp only [layOut, known, Callout.run_map, run_ofClass]
  rfl

/-- A fetch in a class mode hands out the object, and puts back the statement. -/
theorem fetch_eq :
    fetch eng name asked s = (some ((f.object eng).map fun o => some (.object o)),
      { (f.constructed eng).2 with
        objects := s.objects
        statements := (f.constructed eng).2.statements.insert name
          { f.statement with statement := f.next eng } }) := by
  rw [fetch_found f.found, Statement.run_fetch, f.current, f.mode]
  simp only [f.run_layOut eng, next]
  cases f.object eng <;> rfl

theorem statement?_fetch :
    ∃ state, (fetch eng name asked s).2.statement? name =
        some ({ f.statement with statement := f.next eng }, state) ∧
      (f.left eng).SameSettings state := by
  obtain ⟨-, c, there, same⟩ := statement?_eq_some.mp f.found
  obtain ⟨c', there', settings⟩ := run_settings eng (f.workOn f.given) there
  rw [same] at settings
  refine ⟨c'.state, statement?_eq_some.mpr ⟨?_, c', ?_, rfl⟩, settings⟩
  · rw [f.fetch_eq eng, OrderedMap.get?_insert, if_pos rfl]
  · rw [f.fetch_eq eng]
    exact there'

theorem next_mode : (f.next eng).mode = f.statement.statement.mode := by
  rw [next]
  split <;> rfl

theorem fetch_next (asked' : Option FetchMode) :
    (fetch eng name asked' (fetch eng name asked s).2).1 = some (f.nextReply eng asked') := by
  obtain ⟨state, found, settings⟩ := f.statement?_fetch eng
  simp only [fetch_reply found, nextReply, replyIn, layoutOf, Statement.fetchMode,
    settings.layoutSettings, settings.defaultMode, f.next_mode eng]

end ClassFetch

variable {name : String}

/-- The rows that a fetch of all rows hands out begin with what the next fetch would. -/
theorem fetch_of_fetchAll {st : OwnedStatement} {state : State} {mode : Option FetchMode}
    (found : s.statement? name = some (st, state)) {rows : List FetchedRow}
    (all : (fetchAll eng name mode s).1 = some (.ok rows)) :
    (fetch eng name mode s).1 = some (.ok rows.head?) := by
  rw [fetchAll_found (statement?_eq_some.mp found).1] at all
  cases current : st.statement.current? with
  | none =>
    have none_left : st.statement.remaining = 0 := by
      have past := List.getElem?_eq_none_iff.mp current
      rw [Statement.remaining]
      omega
    rw [none_left] at all
    cases all
    exact (fetch_ended found current mode).1
  | some row =>
    obtain ⟨n, left⟩ : ∃ n, st.statement.remaining = n + 1 := by
      have within := (List.getElem?_eq_some_iff.mp current).1
      exact ⟨st.statement.remaining - 1, by rw [Statement.remaining]; omega⟩
    rw [left, fetchUpTo_succ] at all
    rcases replied : fetch eng name mode s with ⟨_ | (e | (_ | fetched)), s'⟩
    all_goals rw [replied] at all
    · cases all
    · cases all
    · cases all
      rfl
    · obtain ⟨result, -, made⟩ := Option.map_eq_some_iff.mp all
      cases result with
      | error e => cases made
      | ok rest =>
        cases made
        rfl

theorem ClassFetch.fetchAll_eq {asked : Option FetchMode} (f : ClassFetch s name asked)
    (eng : Engine σ) :
    fetchAll eng name asked s =
      match f.object eng with
      | .error e => (some (.error e), (fetch eng name asked s).2)
      | .ok o =>
        let rest := fetchAll eng name asked (fetch eng name asked s).2
        (rest.1.map fun result => result.map (.object o :: ·), rest.2) := by
  have within := (List.getElem?_eq_some_iff.mp f.current).1
  obtain ⟨n, left⟩ : ∃ n, f.statement.statement.remaining = n + 1 :=
    ⟨f.statement.statement.remaining - 1, by rw [Statement.remaining]; omega⟩
  obtain ⟨state, found, -⟩ := f.statement?_fetch eng
  have replied : (fetch eng name asked s).1 =
      some ((f.object eng).map fun o => some (.object o)) := by rw [f.fetch_eq eng]
  rw [fetchAll_found (statement?_eq_some.mp f.found).1, left, fetchUpTo_succ]
  rcases fetched : fetch eng name asked s with ⟨reply, s'⟩
  rw [fetched] at replied found
  obtain rfl := replied
  cases made : f.object eng with
  | error e => rfl
  | ok o =>
    have rest : (f.next eng).remaining = n := by
      have one : f.statement.statement.next.remaining + 1 = f.statement.statement.remaining := by
        change f.statement.statement.rows.length - (f.statement.statement.cursor + 1) + 1 =
          f.statement.statement.rows.length - f.statement.statement.cursor
        omega
      rw [ClassFetch.next, made]
      exact Nat.succ.inj (one.trans left)
    simp only [fetchAll_found (statement?_eq_some.mp found).1, rest]
    rfl

/-- A fetch in a class mode hands out what the constructor leaves of an object of the class that was known
at the start, where the columns stand as the settings of the start give them. In a twin session that starts
with these settings, and where the constructor differs in nothing but its writes of attributes, the reply is
the same. The next fetch, in whatever mode, is laid out with the settings that the writes left behind, and
with their default mode unless the call or the statement names one. A fetch of all rows goes on in that way
after its first row. -/
theorem class_fetch_uses_starting_settings {asked : Option FetchMode} (eng : Engine σ)
    (f : ClassFetch s name asked) :
    let after := fetch eng name asked s
    after.1 = some ((f.object eng).map fun o => some (.object o)) ∧
    (∀ (column : String) (v : Value), OrderedMap.lookup column f.pairs.reverse = some v →
      (f.late = false → f.given.get? column = some v) ∧
      (f.late = true → ∀ o, f.object eng = .ok o → o.get? column = some v)) ∧
    (∀ (s' : Session σ) (name' : String) (asked' : Option FetchMode) (g : ClassFetch s' name' asked')
      (sameModes : Bool), Twins sameModes s s' → f.StartsLike g →
      AlikeButWrites eng sameModes s (f.workOn f.given) (g.workOn f.given) →
      (fetch eng name' asked' s').1 = after.1) ∧
    (∀ asked', (fetch eng name asked' after.2).1 = some (f.nextReply eng asked')) ∧
    (fetchAll eng name asked s =
      match f.object eng with
      | .error e => (some (.error e), after.2)
      | .ok o =>
        let rest := fetchAll eng name asked after.2
        (rest.1.map fun result => result.map (.object o :: ·), rest.2)) ∧
    ∀ rows, (fetchAll eng name asked s).1 = some (.ok rows) → ∃ o rest, rows = .object o :: rest ∧
      f.object eng = .ok o ∧ f.nextReply eng asked = .ok rest.head? := by
  intro after
  have reply : after.1 = some ((f.object eng).map fun o => some (.object o)) := by
    rw [show after = _ from f.fetch_eq eng]
  refine ⟨reply, fun _ _ => ClassFetch.get?_column, ?_, f.fetch_next eng, f.fetchAll_eq eng, ?_⟩
  · intro s' name' asked' g sameModes twins alike works
    rw [reply, g.fetch_eq eng, alike.object twins works]
  · intro rows all
    rw [f.fetchAll_eq eng] at all
    cases made : f.object eng with
    | error e =>
      rw [made] at all
      cases all
    | ok o =>
      rw [made] at all
      obtain ⟨result, rest, joined⟩ := Option.map_eq_some_iff.mp all
      cases result with
      | error e => cases joined
      | ok rest' =>
        cases joined
        obtain ⟨state, found, -⟩ := f.statement?_fetch eng
        have next := fetch_of_fetchAll found rest
        rw [f.fetch_next eng, Option.some_inj] at next
        exact ⟨o, rest', rfl, rfl, next⟩

/-- A class whose constructor writes two attributes and keeps what it is answered. -/
def writingClass (stringify : Bool) (style : FetchStyle) : ObjectClass :=
  ⟨"P", some (.ofActions [
    .set "a" (.request "c" (.setAttribute .stringifyFetches (.bool stringify))),
    .set "b" (.request "c" (.setAttribute .defaultFetchMode (.int style.code)))])⟩

def stateOf (c : ObjectClass) : State :=
  .ofOptions { ConnectionOptions.standard with
    stringify := false
    defaultMode := .ofClass c.name [] true
    classes := .insert .standard c }

/-- A session with a connection whose default mode makes objects of the class, and two rows to fetch. -/
def sessionOf (c : ObjectClass) : Session Recording :=
  { start (.ofEvents []) with
    live := .insert .empty 0 ⟨⟨0⟩, stateOf c⟩
    connections := .insert .empty "c" ⟨0, .empty⟩
    statements := .insert .empty "s"
      ⟨0, { Statement.ofSql "" none with rows := [1, 2].map fun n => ⟨.ofTypes ["n"] [], [.int n]⟩ }⟩
    nextId := 1 }

theorem twins_sessionOf {c c' : ObjectClass} (same : c'.name = c.name) :
    Twins true (sessionOf c) (sessionOf c') where
  engine := rfl
  named name := rfl
  live id := by
    by_cases here : 0 = id
    · refine .inr ⟨⟨⟨0⟩, stateOf c⟩, ⟨⟨0⟩, stateOf c'⟩, ?_, ?_, rfl, rfl, rfl, fun name => ?_, fun _ => rfl⟩
      · simp [sessionOf, OrderedMap.get?_insert, here]
      · simp [sessionOf, OrderedMap.get?_insert, here]
      · simp [stateOf, State.ofOptions, ClassTable.contains, ClassTable.find?, ClassTable.insert,
          OrderedMap.get?_insert, same, apply_ite Option.isSome]
    · exact .inl (by simp [sessionOf, OrderedMap.get?_insert, here])

def fetchOf (c : ObjectClass) : ClassFetch (sessionOf c) "s" none where
  statement := ⟨0, { Statement.ofSql "" none with
    rows := [1, 2].map fun n => ⟨.ofTypes ["n"] [], [.int n]⟩ }⟩
  state := stateOf c
  row := ⟨.ofTypes ["n"] [], [.int 1]⟩
  className := c.name
  args := []
  late := true
  definition := c
  found := rfl
  current := rfl
  mode := rfl
  known := by simp [stateOf, State.ofOptions, ClassTable.find?, ClassTable.insert, OrderedMap.get?_insert]

theorem startsLike_fetchOf {c c' : ObjectClass} (same : c'.name = c.name) :
    (fetchOf c).StartsLike (fetchOf c') := by
  have row (c : ObjectClass) : (fetchOf c).row = ⟨.ofTypes ["n"] [], [.int 1]⟩ := rfl
  have stringifies (c : ObjectClass) : (fetchOf c).state.layoutSettings.stringifies = false := rfl
  have late (c : ObjectClass) : (fetchOf c).late = true := rfl
  exact ⟨by rw [row, row], by rw [stringifies, stringifies], same, by rw [late, late]⟩

/-- The first row is an object with the number as such, whatever the constructor writes, and the second
one is a list of texts. -/
theorem class_fetch_uses_starting_settings_written :
    let s := sessionOf (writingClass true .num)
    let s' := sessionOf (writingClass false .assoc)
    let f := fetchOf (writingClass true .num)
    let g := fetchOf (writingClass false .assoc)
    let first := (Object.ofClass "P").assign [("a", .bool true), ("b", .bool true), ("n", .int 1)]
    (Twins true s s' ∧ f.StartsLike g ∧
      AlikeButWrites Recording.engine true s (f.workOn f.given) (g.workOn f.given)) ∧
    (fetch Recording.engine "s" none s).1 = some (.ok (some (.object first))) ∧
    (fetch Recording.engine "s" none s').1 = some (.ok (some (.object first))) ∧
    (fetch Recording.engine "s" none (fetch Recording.engine "s" none s).2).1 =
      some (.ok (some (.list [.text "2"]))) := by
  intro s s' f g first
  have twins : Twins true s s' := twins_sessionOf rfl
  have alike : f.StartsLike g := startsLike_fetchOf rfl
  have works : AlikeButWrites Recording.engine true s (f.workOn f.given) (g.workOn f.given) :=
    .left (.right (.left (.right (.done _))))
  have made : f.object Recording.engine = .ok first := by rfl
  have text : Value.stringify (.int 2) = .text "2" := by decide +kernel
  have left : f.nextReply Recording.engine none = .ok (some (.list [.text "2"])) := by
    rw [← text]
    rfl
  obtain ⟨reply, -, same, next, -⟩ := class_fetch_uses_starting_settings Recording.engine f
  rw [made] at reply
  have next := (next none).trans (congrArg some left)
  have other := same s' "s" none g true twins alike works
  exact ⟨⟨twins, alike, works⟩, reply, other.trans reply, next⟩

end SqlBridge.Session
