import SqlBridge.Class.Script
import SqlBridge.Proofs.Fetch.Assigned
import SqlBridge.Proofs.Session.StartingSettings

/-! # The order of construction

An object of a class has its columns set before its constructor runs, or after it
if the mode is late. The constructor is any work on the object that it is given:
the one with the columns, or an empty one over which the columns are laid when it
is done. Writes of a constructor that touch no column, and do not look at the
object, commute with the columns up to the order of the properties.
-/

namespace SqlBridge

open OrderedMap

/-! ## Assignments that commute -/

namespace Object
variable {pairs writes : List (String × Value)}

/-- An object of another class takes the same properties over. -/
theorem properties_assign_congr {o o' : Object} (same : o.properties = o'.properties)
    (pairs : List (String × Value)) : (o.assign pairs).properties = (o'.assign pairs).properties := by
  rw [properties_assign, properties_assign, same]

/-- Assignments to different names have the same effect in either order, up to the order of what they
add. -/
theorem assign_comm (apart : ∀ w ∈ writes, w.1 ∉ pairs.map Prod.fst) (o : Object) :
    ((o.assign writes).assign pairs).properties.entries.Perm
      ((o.assign pairs).assign writes).properties.entries := by
  apply perm_of_get?
  intro name
  change ((o.assign writes).assign pairs).get? name = ((o.assign pairs).assign writes).get? name
  by_cases column : name ∈ pairs.map Prod.fst
  · have untouched : name ∉ writes.map Prod.fst := by
      intro written
      obtain ⟨w, mem, rfl⟩ := List.mem_map.mp written
      exact apart w mem column
    rw [get?_assign_of_notMem _ untouched]
    exact get?_assign_of_mem _ column o
  · rw [get?_assign_of_notMem _ column]
    by_cases written : name ∈ writes.map Prod.fst
    · exact get?_assign_of_mem _ written _
    · rw [get?_assign_of_notMem _ written, get?_assign_of_notMem _ written,
        get?_assign_of_notMem _ column]

end Object

/-! ## Rows as objects of a class -/

namespace Layout
variable {τ : Type} (respond : String → Request → StateM τ Answer)

/-- With its class known, a row becomes what the constructor leaves of the object that it is given, with
the columns over it if they come late. -/
theorem run_layOut_ofClass {s : LayoutSettings} {className : String} {c : ObjectClass}
    (found : s.classes.find? className = some c) (row : Row) (args : List Value) (late : Bool)
    (objects : ObjectStore) (t : τ) :
    (layOut s row (.ofClass className args late) objects).run respond t =
      let built := (c.runConstructor (c.given late (columnPairs s row)) args).run respond t
      let finished := if late then built.1.1.assign (columnPairs s row) else built.1.1
      ((built.1.2.map fun _ => .object finished, objects), built.2) := by
  simp only [layOut, found, Callout.run_map, Session.run_ofClass]
  cases ((c.runConstructor (c.given late (columnPairs s row)) args).run respond t).1.2 <;> rfl

/-- An early constructor is given the object row, as an object of the class. -/
theorem given_early (c : ObjectClass) (pairs : List (String × Value)) :
    c.given false pairs = ⟨c.name, (Object.standard.assign pairs).properties⟩ := by
  have className : (c.newObject.assign pairs).className = c.name :=
    c.newObject.className_assign pairs
  have properties : (c.newObject.assign pairs).properties = (Object.standard.assign pairs).properties :=
    Object.properties_assign_congr (by rfl) pairs
  rw [← className, ← properties]
  rfl

section Failing
variable {row : Row} {className : String} {c : ObjectClass} {args : List Value} {late : Bool} {t : τ}
  {e : Error}

theorem run_layOut_ofClass_error {s : LayoutSettings} (found : s.classes.find? className = some c)
    (objects : ObjectStore)
    (failed : ((c.runConstructor (c.given late (columnPairs s row)) args).run respond t).1.2 = .error e) :
    ((layOut s row (.ofClass className args late) objects).run respond t).1 = (.error e, objects) := by
  rw [run_layOut_ofClass respond found]
  simp only [failed]
  rfl

theorem run_fetch_ofClass_error {st : Statement} {state : Connection.State} {asked : Option FetchMode}
    (current : st.current? = some row)
    (mode : st.fetchMode state asked = .ofClass className args late)
    (found : state.layoutSettings.classes.find? className = some c) (objects : ObjectStore)
    (failed : ((c.runConstructor (c.given late (columnPairs state.layoutSettings row)) args).run respond
      t).1.2 = .error e) :
    ((st.fetch state asked objects).run respond t).1 = (.error e, st, objects) := by
  rw [Statement.run_fetch, current, mode]
  simp only [run_layOut_ofClass_error respond found objects failed]

end Failing

/-- Take a row with one value for each column, a class that is known, and any constructor, which may
change the object in any way, make requests and fail. If the columns come first it is given an object of the
class with the properties of the object row, in their order, and what it leaves of it is the row. If they
come late it is given an empty object of the class, and the row takes the columns over on what it leaves of
that: every name has its value of the object row, whatever the constructor did. If it fails there is its
error and no row, and the row stays the current one of its statement. Where it does nothing but write
properties that no column names, the same ones to every object, both ways lead to the same properties, up to
their order. -/
theorem layOut_class_constructed (s : LayoutSettings) (row : Row) (objects : ObjectStore)
    {className : String} {c : ObjectClass} (args : List Value) (t : τ)
    (found : s.classes.find? className = some c) (rect : row.columns.count = row.size) :
    let names := row.columns.names
    let made (late : Bool) := (layOut s row (.ofClass className args late) objects).run respond t
    let constructed (o : Object) := (c.runConstructor o args).run respond t
    (columnPairs s row).map Prod.fst = names ∧
    ∃ plain filled empty : Object,
      layOut s row .object objects = .done (.ok (.object plain), objects) ∧
      filled = ⟨c.name, plain.properties⟩ ∧ empty = ⟨c.name, .empty⟩ ∧
      made false = (((constructed filled).1.2.map fun _ => .object (constructed filled).1.1, objects),
        (constructed filled).2) ∧
      (∃ o : Object, Object.TakesOver (columnPairs s row) (constructed empty).1.1 o ∧
        (∀ name ∈ names, o.get? name = plain.get? name) ∧
        made true = (((constructed empty).1.2.map fun _ => .object o, objects),
          (constructed empty).2)) ∧
      (∀ late e, (constructed (if late then empty else filled)).1.2 = .error e →
        (made late).1 = (.error e, objects) ∧
        ∀ (st : Statement) state asked, st.current? = some row → state.layoutSettings = s →
          st.fetchMode state asked = .ofClass className args late →
          ((st.fetch state asked objects).run respond t).1 = (.error e, st, objects)) ∧
      ∀ writes t', (∀ o, constructed o = ((o.assign writes, .ok ()), t')) →
        (∀ w ∈ writes, w.1 ∉ names) →
        ∃ early late : Object, made false = ((.ok (.object early), objects), t') ∧
          made true = ((.ok (.object late), objects), t') ∧ late.className = early.className ∧
          late.properties.entries.Perm early.properties.entries := by
  intro names made constructed
  let pairs := columnPairs s row
  have named : pairs.map Prod.fst = names := columnPairs_names s row rect
  have run_false : made false =
      (((constructed (c.given false pairs)).1.2.map fun _ =>
        .object (constructed (c.given false pairs)).1.1, objects),
        (constructed (c.given false pairs)).2) :=
    run_layOut_ofClass respond found row args false objects t
  have run_true : made true =
      (((constructed (c.given true pairs)).1.2.map fun _ =>
        .object ((constructed (c.given true pairs)).1.1.assign pairs), objects),
        (constructed (c.given true pairs)).2) :=
    run_layOut_ofClass respond found row args true objects t
  refine ⟨named, Object.standard.assign pairs, c.given false pairs, c.given true pairs, rfl,
    given_early c pairs, rfl, run_false,
    ⟨(constructed (c.given true pairs)).1.1.assign pairs, ?_, ?_, run_true⟩, ?_, ?_⟩
  · exact Object.takesOver_assign _ pairs
  · intro name mem
    exact Object.get?_assign_of_mem _ (named ▸ mem) _
  · intro late e failed
    have failed : (constructed (c.given late pairs)).1.2 = .error e := by
      cases late with
      | true => exact failed
      | false => exact failed
    refine ⟨run_layOut_ofClass_error respond found objects failed, ?_⟩
    rintro st state asked current rfl mode
    exact run_fetch_ofClass_error respond current mode found objects failed
  · intro writes t' only apart
    refine ⟨(c.given false pairs).assign writes, ((c.given true pairs).assign writes).assign pairs,
      ?_, ?_, ?_, ?_⟩
    · rw [run_false, only]; rfl
    · rw [run_true, only]; rfl
    · simp only [Object.className_assign]
      exact (c.newObject.className_assign pairs).symm
    · exact Object.assign_comm (named ▸ apart) c.newObject

/-- The constructor counts the properties that it finds and sets one that a column names, twice in the row. -/
theorem layOut_class_constructed_early_and_late :
    let make := Constructor.ofActions [.set "found" .propertyCount, .set "id" (.constant (.int 9))]
    let s : LayoutSettings := ⟨false, .v81, ClassTable.standard.insert ⟨"P", some make⟩⟩
    let row : Row := ⟨.ofTypes ["id", "name", "id"] [], [.int 1, .text "x", .int 2]⟩
    let made (late : Bool) := (layOut s row (.ofClass "P" [] late) .empty).run
      (fun _ _ => fun t : Unit => (.ok .null, t)) ()
    s.classes.find? "P" = some ⟨"P", some make⟩ ∧ row.columns.count = row.size ∧
      (∃ o : Object, made false = ((.ok (.object o), .empty), ()) ∧
        o.properties.entries = [("id", .int 9), ("name", .text "x"), ("found", .int 2)]) ∧
      ∃ o : Object, made true = ((.ok (.object o), .empty), ()) ∧
        o.properties.keys = ["found", "id", "name"] ∧ o.get? "found" = some (.int 0) ∧
        o.get? "id" = some (.int 2) ∧ o.get? "name" = some (.text "x") := by
  intro make s row made
  have found : s.classes.find? "P" = some ⟨"P", some make⟩ := by
    simp [s, ClassTable.find?, ClassTable.insert, OrderedMap.get?_insert]
  obtain ⟨-, plain, -, -, laid, rfl, rfl, early, ⟨o, takes, values, late⟩, -, -⟩ :=
    layOut_class_constructed (fun _ _ => fun t : Unit => (.ok .null, t)) s row .empty [] () found rfl
  obtain rfl : Object.standard.assign (columnPairs s row) = plain := by
    simpa only [layOut, Callout.done.injEq, Prod.mk.injEq, Except.ok.injEq, FetchedRow.object.injEq,
      and_true] using laid
  have left : o.get? "found" = some (.int 0) := takes.others "found" (by decide)
  exact ⟨found, rfl, ⟨_, early, by decide⟩, o, late,
    takes.names.trans (by decide), left, values "id" (by decide), values "name" (by decide)⟩

end Layout
end SqlBridge
