import SqlBridge.Proofs.Fetch.ByName
import SqlBridge.Proofs.Fetch.Stringified
import Mathlib.Data.List.Nodup

/-! # Objects that take columns over

Columns are assigned to an object one by one, over what it holds. Its class and
its other properties stay, properties with the name of a column keep their places,
and new ones come behind them. Columns that are assigned under the same names
again leave no trace of the first time.
-/

namespace SqlBridge

/-! ## Maps told apart -/

namespace OrderedMap
variable {κ α : Type} [DecidableEq κ] {m m' : OrderedMap κ α}

theorem put_put (k : κ) (v w : α) (entries : List (κ × α)) :
    put k w (put k v entries) = put k w entries := by
  induction entries with
  | nil => simp [put]
  | cons e rest ih => by_cases same : e.1 = k <;> simp [put, same, ih]

theorem insert_insert (m : OrderedMap κ α) (k : κ) (v w : α) :
    (m.insert k v).insert k w = m.insert k w :=
  ext_entries (put_put k v w m.entries)

theorem entries_ext {entries entries' : List (κ × α)} (nodup : (entries.map Prod.fst).Nodup)
    (keys : entries.map Prod.fst = entries'.map Prod.fst)
    (look : ∀ k, lookup k entries = lookup k entries') : entries = entries' := by
  induction entries generalizing entries' with
  | nil => exact (List.map_eq_nil_iff.mp keys.symm).symm
  | cons e rest ih =>
    obtain ⟨k, v⟩ := e
    cases entries' with
    | nil => cases keys
    | cons e' rest' =>
      obtain ⟨k', v'⟩ := e'
      obtain ⟨rfl, later⟩ := List.cons_eq_cons.mp keys
      obtain ⟨absent, nodup⟩ := List.nodup_cons.mp nodup
      have first : v = v' := by simpa [lookup] using look k
      have others : rest = rest' := by
        apply ih nodup later
        intro k''
        by_cases same : k = k''
        · subst same
          rw [lookup_eq_none_iff.mpr absent, lookup_eq_none_iff.mpr (later ▸ absent)]
        · simpa [lookup, same] using look k''
      rw [first, others]

theorem ext_get? (keys : m.keys = m'.keys) (look : ∀ k, m.get? k = m'.get? k) : m = m' :=
  ext_entries (entries_ext m.nodup_keys keys look)

theorem perm_of_get? (look : ∀ k, m.get? k = m'.get? k) : m.entries.Perm m'.entries := by
  have nodup (m : OrderedMap κ α) : m.entries.Nodup := List.Nodup.of_map Prod.fst m.nodup_keys
  rw [List.perm_ext_iff_of_nodup (nodup m) (nodup m')]
  intro e
  have mem (m : OrderedMap κ α) : e ∈ m.entries ↔ m.get? e.1 = some e.2 :=
    (lookup_eq_some_iff m.nodup_keys).symm
  rw [mem, mem, look]

/-- New keys come behind those that are there, in the order in which they arrive. -/
theorem keys_insertAll_append (m : OrderedMap κ α) (pairs : List (κ × α)) :
    (m.insertAll pairs).keys =
      m.keys ++ ((pairs.map Prod.fst).filter fun k => k ∉ m.keys).eraseDups := by
  rw [keys_insertAll, List.eraseDups_append, eraseDups_keys, List.removeAll]
  simp

theorem mem_keys_insertAll {k : κ} {pairs : List (κ × α)} :
    k ∈ (m.insertAll pairs).keys ↔ k ∈ m.keys ∨ k ∈ pairs.map Prod.fst := by
  rw [keys_insertAll, List.mem_eraseDups, List.mem_append]

theorem keys_insertAll_of_mem {pairs : List (κ × α)} (there : ∀ k ∈ pairs.map Prod.fst, k ∈ m.keys) :
    (m.insertAll pairs).keys = m.keys := by
  have none : ((pairs.map Prod.fst).filter fun k => k ∉ m.keys) = [] := by
    rw [List.filter_eq_nil_iff]
    intro k mem
    simpa using there k mem
  rw [keys_insertAll_append, none, List.eraseDups_nil, List.append_nil]

end OrderedMap

open OrderedMap

/-! ## Objects -/

namespace Object

/-- An object with the columns over another: it has the class and the other properties of that one in
their places, the value of the last column of each name, and the new names behind. -/
structure TakesOver (pairs : List (String × Value)) (o o' : Object) : Prop where
  className : o'.className = o.className
  names : o'.properties.keys = o.properties.keys ++
    ((pairs.map Prod.fst).filter fun name => name ∉ o.properties.keys).eraseDups
  others : ∀ name, name ∉ pairs.map Prod.fst → o'.get? name = o.get? name
  columns : ∀ before name v after, pairs = before ++ (name, v) :: after →
    name ∉ after.map Prod.fst → o'.get? name = some v

variable (o : Object) {pairs pairs' : List (String × Value)} {name : String}

theorem className_assign (pairs : List (String × Value)) :
    (o.assign pairs).className = o.className := by
  induction pairs generalizing o with
  | nil => rfl
  | cons p rest ih => exact ih (o.set p.1 p.2)

theorem get?_assign_of_notMem (absent : name ∉ pairs.map Prod.fst) :
    (o.assign pairs).get? name = o.get? name := by
  rw [get?, properties_assign, get?_insertAll_of_notMem _ absent, get?]

/-- What a name that is assigned has does not depend on the object. -/
theorem get?_assign_of_mem (mem : name ∈ pairs.map Prod.fst) (o' : Object) :
    (o.assign pairs).get? name = (o'.assign pairs).get? name := by
  have found : lookup name pairs.reverse ≠ none := by
    rw [ne_eq, lookup_eq_none_iff, List.map_reverse, List.mem_reverse, Decidable.not_not]
    exact mem
  obtain ⟨v, found⟩ := Option.ne_none_iff_exists'.mp found
  rw [get?_assign, get?_assign, found, Option.some_or, Option.some_or]

theorem takesOver_assign (pairs : List (String × Value)) : TakesOver pairs o (o.assign pairs) where
  className := o.className_assign pairs
  names := by rw [properties_assign, keys_insertAll_append]
  others name absent := o.get?_assign_of_notMem absent
  columns before name v after split last := by
    have none : lookup name after.reverse = none := by
      rw [lookup_eq_none_iff, List.map_reverse, List.mem_reverse]
      exact last
    rw [get?_assign, split, List.reverse_append, List.reverse_cons, lookup_append, lookup_append, none]
    simp [lookup]

theorem ext_get? {o o' : Object} (className : o.className = o'.className)
    (keys : o.properties.keys = o'.properties.keys) (look : ∀ name, o.get? name = o'.get? name) :
    o = o' := by
  cases o
  cases o'
  cases className
  cases OrderedMap.ext_get? keys look
  rfl

/-- Columns that are assigned under the same names again leave no trace of the first time. -/
theorem assign_assign (same : pairs.map Prod.fst = pairs'.map Prod.fst) :
    (o.assign pairs).assign pairs' = o.assign pairs' := by
  apply ext_get?
  · simp only [className_assign]
  · -- after the first time the names are all there
    simp only [properties_assign]
    rw [keys_insertAll_of_mem, keys_insertAll, keys_insertAll, same]
    intro name mem
    rw [mem_keys_insertAll, same]
    exact .inr mem
  · intro name
    by_cases mem : name ∈ pairs'.map Prod.fst
    · exact get?_assign_of_mem _ mem o
    · rw [get?_assign_of_notMem _ mem, get?_assign_of_notMem _ mem,
        get?_assign_of_notMem _ (same ▸ mem)]

end Object
end SqlBridge
