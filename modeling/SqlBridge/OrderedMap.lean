/-! # Maps in order of first insertion

An ordered map lists its entries in the order in which their keys first
arrived. Writing to a key that is present changes the value and keeps the
position. No key occurs twice, which the type itself records.
-/

namespace SqlBridge

/-- Entries in order of first insertion, each key once. -/
structure OrderedMap (κ α : Type) where
  entries : List (κ × α)
  nodup_keys : (entries.map Prod.fst).Nodup

namespace OrderedMap
variable {κ α β : Type}

def keys (m : OrderedMap κ α) : List κ := m.entries.map Prod.fst

def values (m : OrderedMap κ α) : List α := m.entries.map Prod.snd

def size (m : OrderedMap κ α) : Nat := m.entries.length

def isEmpty (m : OrderedMap κ α) : Bool := m.entries.isEmpty

def empty : OrderedMap κ α := ⟨[], List.nodup_nil⟩

variable [DecidableEq κ]

def lookup (k : κ) : List (κ × α) → Option α
  | [] => none
  | (k', v) :: rest => if k' = k then some v else lookup k rest

/-- Replace the value of a key that is present, or append the entry. -/
def put (k : κ) (v : α) : List (κ × α) → List (κ × α)
  | [] => [(k, v)]
  | (k', v') :: rest => if k' = k then (k', v) :: rest else (k', v') :: put k v rest

theorem keys_put (k : κ) (v : α) (entries : List (κ × α)) :
    (put k v entries).map Prod.fst =
      if k ∈ entries.map Prod.fst then entries.map Prod.fst else entries.map Prod.fst ++ [k] := by
  induction entries with
  | nil => simp [put]
  | cons e rest ih =>
    by_cases h : e.1 = k
    · simp [put, h]
    · by_cases hr : k ∈ rest.map Prod.fst <;> simp_all [put, Ne.symm h]

theorem nodup_keys_put (k : κ) (v : α) {entries : List (κ × α)}
    (h : (entries.map Prod.fst).Nodup) : ((put k v entries).map Prod.fst).Nodup := by
  rw [keys_put]
  split
  · exact h
  · rename_i hk
    exact List.nodup_append.2 ⟨h, by simp, fun a ha b hb => by
      rintro rfl
      exact hk (by simpa [List.mem_singleton.1 hb] using ha)⟩

def get? (m : OrderedMap κ α) (k : κ) : Option α := lookup k m.entries

def contains (m : OrderedMap κ α) (k : κ) : Bool := (m.get? k).isSome

def insert (m : OrderedMap κ α) (k : κ) (v : α) : OrderedMap κ α :=
  ⟨put k v m.entries, nodup_keys_put k v m.nodup_keys⟩

def insertIfNew (m : OrderedMap κ α) (k : κ) (v : α) : OrderedMap κ α :=
  if m.contains k then m else m.insert k v

def erase (m : OrderedMap κ α) (k : κ) : OrderedMap κ α :=
  ⟨m.entries.filter (fun e => e.1 ≠ k), m.nodup_keys.sublist ((List.filter_sublist).map Prod.fst)⟩

/-- Write the pairs one after another, later pairs over earlier ones. -/
def insertAll (m : OrderedMap κ α) (pairs : List (κ × α)) : OrderedMap κ α :=
  pairs.foldl (fun m p => m.insert p.1 p.2) m

def ofList (pairs : List (κ × α)) : OrderedMap κ α := empty.insertAll pairs

@[simp] theorem get?_empty (k : κ) : (empty : OrderedMap κ α).get? k = none := rfl

theorem lookup_put (k k' : κ) (v : α) (entries : List (κ × α)) :
    lookup k' (put k v entries) = if k = k' then some v else lookup k' entries := by
  induction entries with
  | nil => simp [put, lookup]
  | cons e rest ih =>
    by_cases h : e.1 = k
    · by_cases hk : k = k' <;> simp_all [put, lookup]
    · by_cases hk : k = k'
      · subst hk
        simp [put, lookup, h, ih]
      · simp [put, lookup, h, ih, hk]

/-- A write is seen at its own key and nowhere else. -/
theorem get?_insert (m : OrderedMap κ α) (k k' : κ) (v : α) :
    (m.insert k v).get? k' = if k = k' then some v else m.get? k' :=
  lookup_put k k' v m.entries

theorem lookup_filter_ne (k k' : κ) (entries : List (κ × α)) :
    lookup k' (entries.filter (fun e => e.1 ≠ k)) = if k = k' then none else lookup k' entries := by
  induction entries with
  | nil => simp [lookup]
  | cons e rest ih =>
    by_cases h : e.1 = k
    · by_cases hk : k = k' <;> simp_all [lookup]
    · by_cases hk : k = k' <;> simp_all [lookup]

theorem get?_erase (m : OrderedMap κ α) (k k' : κ) :
    (m.erase k).get? k' = if k = k' then none else m.get? k' :=
  lookup_filter_ne k k' m.entries

/-- A write to a new key puts it last, any other write keeps the keys as they are. -/
theorem keys_insert (m : OrderedMap κ α) (k : κ) (v : α) :
    (m.insert k v).keys = if k ∈ m.keys then m.keys else m.keys ++ [k] :=
  keys_put k v m.entries

theorem mem_keys_insert {m : OrderedMap κ α} {k k' : κ} {v : α} :
    k' ∈ (m.insert k v).keys ↔ k' = k ∨ k' ∈ m.keys := by
  rw [keys_insert]
  split
  · rename_i hk
    exact ⟨.inr, fun h => h.elim (fun e => e ▸ hk) id⟩
  · rw [List.mem_append, List.mem_singleton, or_comm]

theorem lookup_append (k : κ) (as bs : List (κ × α)) :
    lookup k (as ++ bs) = (lookup k as).or (lookup k bs) := by
  induction as with
  | nil => rfl
  | cons e rest ih => by_cases h : e.1 = k <;> simp [lookup, h, ih]

theorem lookup_eq_none_iff {k : κ} {entries : List (κ × α)} :
    lookup k entries = none ↔ k ∉ entries.map Prod.fst := by
  induction entries with
  | nil => simp [lookup]
  | cons e rest ih =>
    by_cases h : e.1 = k
    · simp [lookup, h]
    · simp [lookup, h, Ne.symm h, ih]

theorem get?_eq_none_iff {m : OrderedMap κ α} {k : κ} : m.get? k = none ↔ k ∉ m.keys :=
  lookup_eq_none_iff

theorem mem_keys_iff {m : OrderedMap κ α} {k : κ} : k ∈ m.keys ↔ ∃ v, m.get? k = some v := by
  rw [← Option.ne_none_iff_exists', ne_eq, get?_eq_none_iff, Decidable.not_not]

/-- A value that is inserted only where the key is new never hides another one. -/
theorem get?_insertIfNew (m : OrderedMap κ α) (k k' : κ) (v : α) :
    (m.insertIfNew k v).get? k' = (m.get? k').or (if k = k' then some v else none) := by
  cases h : m.get? k with
  | some w => by_cases hk : k = k' <;> simp_all [insertIfNew, contains]
  | none => by_cases hk : k = k' <;> simp_all [insertIfNew, contains, get?_insert]

theorem keys_insertIfNew (m : OrderedMap κ α) (k : κ) (v : α) :
    (m.insertIfNew k v).keys = (m.insert k v).keys := by
  cases h : m.get? k with
  | some w => simp [insertIfNew, contains, h, keys_insert, mem_keys_iff]
  | none => simp [insertIfNew, contains, h]

/-- Of several writes to one key the last is seen. -/
theorem get?_insertAll (m : OrderedMap κ α) (pairs : List (κ × α)) (k : κ) :
    (m.insertAll pairs).get? k = (lookup k pairs.reverse).or (m.get? k) := by
  induction pairs generalizing m with
  | nil => rfl
  | cons p pairs ih =>
    have step : (m.insertAll (p :: pairs)).get? k = ((m.insert p.1 p.2).insertAll pairs).get? k :=
      rfl
    rw [step, ih, get?_insert, List.reverse_cons, lookup_append, Option.or_assoc]
    by_cases h : p.1 = k <;> simp [lookup, h]

theorem get?_insertAll_of_notMem (m : OrderedMap κ α) {pairs : List (κ × α)} {k : κ}
    (absent : k ∉ pairs.map Prod.fst) : (m.insertAll pairs).get? k = m.get? k := by
  have none : lookup k pairs.reverse = none := by
    rw [lookup_eq_none_iff, List.map_reverse, List.mem_reverse]
    exact absent
  rw [get?_insertAll, none, Option.none_or]

theorem eraseDups_of_nodup {ks : List κ} (h : ks.Nodup) : ks.eraseDups = ks := by
  induction ks with
  | nil => rfl
  | cons k ks ih =>
    rw [List.nodup_cons] at h
    have hk : ks.filter (fun b => !b == k) = ks := by
      rw [List.filter_eq_self]
      intro b hb
      simpa using fun e : b = k => h.1 (e ▸ hb)
    rw [List.eraseDups_cons, hk, ih h.2]

theorem eraseDups_keys_insert (m : OrderedMap κ α) (k : κ) (v : α) (rest : List κ) :
    ((m.insert k v).keys ++ rest).eraseDups = (m.keys ++ k :: rest).eraseDups := by
  rw [keys_insert]
  split
  · rename_i hk
    rw [List.eraseDups_append, List.eraseDups_append, List.cons_removeAll]
    simp [hk]
  · simp

theorem eraseDups_keys (m : OrderedMap κ α) : m.keys.eraseDups = m.keys :=
  eraseDups_of_nodup m.nodup_keys

/-- Keys stand in the order in which they first arrived. -/
theorem keys_insertAll (m : OrderedMap κ α) (pairs : List (κ × α)) :
    (m.insertAll pairs).keys = (m.keys ++ pairs.map Prod.fst).eraseDups := by
  induction pairs generalizing m with
  | nil => simp [insertAll, eraseDups_keys]
  | cons p pairs ih =>
    have step : (m.insertAll (p :: pairs)).keys = ((m.insert p.1 p.2).insertAll pairs).keys := rfl
    rw [step, ih, eraseDups_keys_insert, List.map_cons]

theorem put_of_notMem {k : κ} {entries : List (κ × α)} (h : k ∉ entries.map Prod.fst) (v : α) :
    put k v entries = entries ++ [(k, v)] := by
  induction entries with
  | nil => rfl
  | cons e rest ih =>
    rw [List.map_cons, List.mem_cons, not_or] at h
    simp [put, Ne.symm h.1, ih h.2]

/-- Entries under new and different keys are appended as they come. -/
theorem entries_insertAll (m : OrderedMap κ α) (pairs : List (κ × α))
    (h : (m.keys ++ pairs.map Prod.fst).Nodup) :
    (m.insertAll pairs).entries = m.entries ++ pairs := by
  induction pairs generalizing m with
  | nil => simp [insertAll]
  | cons p pairs ih =>
    have hp : p.1 ∉ m.keys := fun hm => (List.nodup_append.1 h).2.2 _ hm _ (by simp) rfl
    have hput : (m.insert p.1 p.2).entries = m.entries ++ [p] := put_of_notMem hp p.2
    have hkeys : (m.insert p.1 p.2).keys = m.keys ++ [p.1] := by rw [keys_insert, if_neg hp]
    have step : (m.insertAll (p :: pairs)).entries = ((m.insert p.1 p.2).insertAll pairs).entries :=
      rfl
    rw [step, ih _ (by rw [hkeys]; simpa using h), hput, List.append_assoc, List.singleton_append]

theorem put_of_lookup {k : κ} {v : α} {entries : List (κ × α)} (h : lookup k entries = some v) :
    put k v entries = entries := by
  induction entries with
  | nil => cases h
  | cons e rest ih =>
    by_cases hk : e.1 = k
    · simp_all [put, lookup, Prod.ext_iff]
    · simp_all [put, lookup]

theorem insert_of_get? {m : OrderedMap κ α} {k : κ} {v : α} (h : m.get? k = some v) :
    m.insert k v = m := by
  simp only [insert, put_of_lookup h]

theorem filter_put (k : κ) (v : α) (entries : List (κ × α)) :
    (put k v entries).filter (fun e => e.1 ≠ k) = entries.filter (fun e => e.1 ≠ k) := by
  induction entries with
  | nil => simp [put]
  | cons e rest ih => by_cases h : e.1 = k <;> simp_all [put]

/-- A key that is erased may have been written before. -/
theorem erase_insert (m : OrderedMap κ α) (k : κ) (v : α) : (m.insert k v).erase k = m.erase k := by
  simp only [insert, erase, filter_put]

theorem erase_of_get? {m : OrderedMap κ α} {k : κ} (h : m.get? k = none) : m.erase k = m := by
  have absent : m.entries.filter (fun e => e.1 ≠ k) = m.entries := by
    rw [List.filter_eq_self]
    intro e he
    simpa using fun hk : e.1 = k => get?_eq_none_iff.mp h (hk ▸ List.mem_map_of_mem he)
  simp only [erase, absent]

theorem lookup_eq_some_iff {k : κ} {v : α} {entries : List (κ × α)}
    (h : (entries.map Prod.fst).Nodup) : lookup k entries = some v ↔ (k, v) ∈ entries := by
  induction entries with
  | nil => simp [lookup]
  | cons e rest ih =>
    rw [List.map_cons, List.nodup_cons] at h
    by_cases hk : e.1 = k
    · have absent : (k, v) ∉ rest := fun hv => h.1 (hk ▸ List.mem_map_of_mem hv)
      simp [lookup, hk, absent, Prod.ext_iff, eq_comm]
    · simp [lookup, hk, ih h.2, Prod.ext_iff, Ne.symm hk]

theorem mem_values_iff {m : OrderedMap κ α} {v : α} : v ∈ m.values ↔ ∃ k, m.get? k = some v := by
  simp [values, get?, lookup_eq_some_iff m.nodup_keys]

end OrderedMap
end SqlBridge
