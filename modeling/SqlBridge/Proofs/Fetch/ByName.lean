import SqlBridge.Proofs.Fetch.Positions

/-! # One value for each name

A name that several columns carry stands for the last of them. Rows are looked
into in several ways: by the index of a name, by a key made from it, by the name
of a property and by the group of a name. All of them find the same column, and
a key that is made from a name leads back to that name.
-/

namespace SqlBridge

namespace OrderedMap
variable {κ ι α : Type} [DecidableEq κ] [DecidableEq ι]

theorem lookup_map_key {f : κ → ι} (apart : ∀ {a b}, f a = f b → a = b) (k : κ)
    (entries : List (κ × α)) :
    lookup (f k) (entries.map fun p => (f p.1, p.2)) = lookup k entries := by
  induction entries with
  | nil => rfl
  | cons e rest ih =>
    by_cases h : e.1 = k
    · simp [lookup, h]
    · have hf : f e.1 ≠ f k := fun same => h (apart same)
      simp [lookup, h, hf, ih]

end OrderedMap

open OrderedMap

/-! ## The last column of a name -/

namespace Columns

theorem lastIndexFrom_append (i : Nat) (name : String) (before after : List String) :
    lastIndexFrom i name (before ++ after) =
      (lastIndexFrom (i + before.length) name after).or (lastIndexFrom i name before) := by
  induction before generalizing i with
  | nil => simp [lastIndexFrom]
  | cons n rest ih =>
    have next : i + 1 + rest.length = i + (n :: rest).length := by simp; omega
    rw [List.cons_append, lastIndexFrom, ih, next, lastIndexFrom, Option.or_assoc]

theorem lastIndexFrom_of_notMem {name : String} {names : List String} (absent : name ∉ names)
    (i : Nat) : lastIndexFrom i name names = none := by
  induction names generalizing i with
  | nil => rfl
  | cons n rest ih =>
    rw [List.mem_cons, not_or] at absent
    simp [lastIndexFrom, ih absent.2, Ne.symm absent.1]

/-- A name that does not come again has its index here. -/
theorem lastIndex?_of_split {c : Columns} {before after : List String} {name : String}
    (split : c.names = before ++ name :: after) (last : name ∉ after) :
    c.lastIndex? name = some before.length := by
  rw [lastIndex?, split, lastIndexFrom_append, lastIndexFrom, lastIndexFrom_of_notMem last]
  simp

end Columns

theorem exists_last_split {name : String} {names : List String} (mem : name ∈ names) :
    ∃ before after, names = before ++ name :: after ∧ name ∉ after := by
  obtain ⟨after, before, reversed, first⟩ :=
    List.eq_append_cons_of_mem (List.mem_reverse.mpr mem)
  refine ⟨before.reverse, after.reverse, ?_, by simpa using first⟩
  rw [← List.reverse_reverse names, reversed]
  simp

/-! ## Objects -/

namespace Object

theorem properties_assign (o : Object) (pairs : List (String × Value)) :
    (o.assign pairs).properties = o.properties.insertAll pairs := by
  induction pairs generalizing o with
  | nil => rfl
  | cons p rest ih => exact ih (o.set p.1 p.2)

/-- A property that is assigned holds what was assigned to it last, any other what it held. -/
theorem get?_assign (o : Object) (pairs : List (String × Value)) (name : String) :
    (o.assign pairs).get? name = (lookup name pairs.reverse).or (o.get? name) := by
  rw [get?, properties_assign, get?_insertAll]
  rfl

end Object

/-! ## Groups -/

def ColumnGroup.last? : ColumnGroup → Option Value
  | one v => some v
  | many vs => vs.getLast?

theorem ColumnGroup.last?_add (group : ColumnGroup) (v : Value) : (group.add v).last? = some v := by
  cases group with
  | one first => rfl
  | many vs => simp [add, last?]

namespace Layout

theorem last?_addToGroup (m : OrderedMap String ColumnGroup) (p : String × Value) (name : String) :
    ((addToGroup m p).get? name).bind ColumnGroup.last? =
      if p.1 = name then some p.2 else (m.get? name).bind ColumnGroup.last? := by
  have written (group : ColumnGroup) (holds : group.last? = some p.2) :
      ((m.insert p.1 group).get? name).bind ColumnGroup.last? =
        if p.1 = name then some p.2 else (m.get? name).bind ColumnGroup.last? := by
    rw [get?_insert]
    split
    · exact holds
    · rfl
  rw [addToGroup]
  split
  next group _ => exact written _ (group.last?_add p.2)
  next => exact written _ rfl

theorem last?_foldl_addToGroup (m : OrderedMap String ColumnGroup) (pairs : List (String × Value))
    (name : String) :
    ((pairs.foldl addToGroup m).get? name).bind ColumnGroup.last? =
      (lookup name pairs.reverse).or ((m.get? name).bind ColumnGroup.last?) := by
  induction pairs generalizing m with
  | nil => rfl
  | cons p rest ih =>
    rw [List.foldl_cons, ih, last?_addToGroup, List.reverse_cons, lookup_append, Option.or_assoc]
    by_cases h : p.1 = name <;> simp [lookup, h]

theorem last?_groups (pairs : List (String × Value)) (name : String) :
    ((groups pairs).get? name).bind ColumnGroup.last? = lookup name pairs.reverse := by
  rw [groups, last?_foldl_addToGroup]
  exact Option.or_none

/-! ## Keys -/

theorem get?_assoc_ofName (pairs : List (String × Value)) (name : String) :
    (assoc pairs).get? (.ofName name) = lookup name pairs.reverse := by
  rw [get?_assoc, named, ← List.map_reverse]
  exact lookup_map_key RowKey.ofName_injective name pairs.reverse

theorem get?_bothFrom_ofName {pairs : List (String × Value)} {name : String} {v : Value}
    (last : lookup name pairs.reverse = some v) :
    (bothFrom 0 .empty pairs).get? (.ofName name) = some v := by
  rw [get?_bothFrom_empty, get?_assoc_ofName, last]
  rfl

/-! ## Rows -/

/-- The modes that give every name one value in a row. A class may have no constructor, which could
change the properties. -/
def OneValueEach (s : LayoutSettings) : FetchMode → Prop
  | .assoc | .object | .into _ => True
  | .both => s.generation = .v80 ∨ s.generation = .v81
  | .ofClass className _ _ => ∃ c, s.classes.find? className = some c ∧ c.constructor? = none
  | .num | .named => False

/-- Without a constructor the object has the columns as its properties, late or not. -/
theorem ofClass_of_plain {c : ObjectClass} (plain : c.constructor? = none) (args : List Value)
    (late : Bool) (pairs : List (String × Value)) :
    ofClass c args late pairs = .done (.ok (c.newObject.assign pairs)) := by
  cases late <;> simp [ofClass, ObjectClass.runConstructor, plain, Callout.map, Except.map]

/-- Whatever the mode, looking for a name finds the value of its last column. -/
theorem get?_layOut_of_last {s : LayoutSettings} {row : Row} {mode : FetchMode} {name : String}
    {v : Value} (last : lookup name (columnPairs s row).reverse = some v)
    (one : OneValueEach s mode) (objects : ObjectStore) :
    ∃ fetched objects', layOut s row mode objects = .done (.ok fetched, objects') ∧
      fetched.get? objects' (.ofName name) = some v := by
  have assigned (o : Object) : (o.assign (columnPairs s row)).get? name = some v := by
    rw [Object.get?_assign, last]
    rfl
  cases mode with
  | num => cases one
  | named => cases one
  | assoc => exact ⟨_, _, rfl, (get?_assoc_ofName _ name).trans last⟩
  | both =>
    refine ⟨_, _, rfl, ?_⟩
    rw [both_of_positions one]
    exact get?_bothFrom_ofName last
  | object =>
    refine ⟨_, _, rfl, ?_⟩
    rw [FetchedRow.get?, RowKey.text_ofName]
    exact assigned _
  | into target =>
    refine ⟨_, _, rfl, ?_⟩
    rw [FetchedRow.get?, RowKey.text_ofName, ObjectStore.get_set]
    exact assigned _
  | ofClass className args late =>
    obtain ⟨c, found, plain⟩ := one
    refine ⟨.object (c.newObject.assign (columnPairs s row)), objects, ?_, ?_⟩
    · simp [layOut, found, ofClass_of_plain plain, Callout.map, Except.map]
    · rw [FetchedRow.get?, RowKey.text_ofName]
      exact assigned _

/-- All forms of a row agree on a name: they give it the value of the last column that carries it,
stringified if the settings ask for it. -/
theorem layOut_last_column (s : LayoutSettings) (row : Row) (objects : ObjectStore) {name : String}
    (rect : row.columns.count = row.size) (mem : name ∈ row.columns.names) :
    ∃ (i : Nat) (v : Value), row.columns.names[i]? = some name ∧
      name ∉ row.columns.names.drop (i + 1) ∧ row.values[i]? = some v ∧ row.byName? name = some v ∧
      (∀ mode, OneValueEach s mode → ∃ fetched objects',
        layOut s row mode objects = .done (.ok fetched, objects') ∧
        fetched.get? objects' (.ofName name) = some (present s.stringifies v)) ∧
      ∃ (byName : OrderedMap String ColumnGroup) (group : ColumnGroup),
        layOut s row .named objects = .done (.ok (.groups byName), objects) ∧
        byName.get? name = some group ∧ group.last? = some (present s.stringifies v) := by
  obtain ⟨before, after, split, last⟩ := exists_last_split mem
  have here : row.columns.names[before.length]? = some name := by simp [split]
  have behind : row.columns.names.drop (before.length + 1) = after := by simp [split]
  obtain ⟨v, value⟩ : ∃ v, row.values[before.length]? = some v := by
    have within : before.length < row.columns.names.length := by simp [split]
    exact ⟨_, List.getElem?_eq_getElem (Nat.lt_of_lt_of_eq within rect)⟩
  have found : lookup name (columnPairs s row).reverse = some (present s.stringifies v) := by
    obtain ⟨before', after', pairs, -, names⟩ := columnPairs_split s row rect here value
    rw [← get?_assoc_ofName, pairs]
    exact get?_assoc_last (by rw [names, behind]; exact last)
  refine ⟨before.length, v, here, by rw [behind]; exact last, value, ?_, fun mode one =>
    get?_layOut_of_last found one objects, groups (columnPairs s row), ?_⟩
  · rw [Row.byName?, Columns.lastIndex?_of_split split last]
    exact value
  · have group := last?_groups (columnPairs s row) name
    rw [found, Option.bind_eq_some_iff] at group
    obtain ⟨group, present, ends⟩ := group
    exact ⟨group, rfl, present, ends⟩

/-- A repeated name that is also an integer: all forms of the row give it the last value. -/
theorem layOut_last_column_repeated :
    let s : LayoutSettings := ⟨true, .v81, .standard⟩
    let row : Row := ⟨.ofTypes ["2", "a", "2"] [], [.int 5, .null, .bool true]⟩
    row.columns.count = row.size ∧ "2" ∈ row.columns.names ∧
      ∀ mode, OneValueEach s mode → ∃ fetched objects',
        layOut s row mode .empty = .done (.ok fetched, objects') ∧
        fetched.get? objects' (.int 2) = some (.text "1") := by
  intro s row
  have rect : row.columns.count = row.size := rfl
  have mem : "2" ∈ row.columns.names := by decide
  refine ⟨rect, mem, fun mode one => ?_⟩
  obtain ⟨_, v, -, -, -, byName, forms, -⟩ := layOut_last_column s row .empty rect mem
  have last : row.byName? "2" = some (.bool true) := by decide
  have key : RowKey.ofName "2" = .int 2 := by decide
  have text : present s.stringifies (.bool true) = .text "1" := rfl
  rw [last] at byName
  cases byName
  rw [← key, ← text]
  exact forms mode one

end Layout
end SqlBridge
