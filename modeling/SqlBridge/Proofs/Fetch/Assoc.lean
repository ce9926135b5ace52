import SqlBridge.Fetch.Layout
import SqlBridge.Proofs.Decimal.Canonical

/-! # Rows keyed by name

A name key shows the name that it was made from, so different names have
different keys. In the map of a row every name holds the value of its last
column, and the keys stand in the order of their first columns.
-/

namespace SqlBridge

namespace RowKey

theorem text_ofName (name : String) : (ofName name).text = name := by
  unfold ofName
  split
  · rename_i n h
    rw [text, Decimal.intText, ← Decimal.eq_intDigits_of_readCanonicalInt h, String.ofList_toList]
  · rfl

theorem ofName_injective {a b : String} (h : ofName a = ofName b) : a = b := by
  rw [← text_ofName a, h, text_ofName]

theorem ofName_le {name : String} {n : Int} (h : ofName name = .int n) : n ≤ Decimal.maxInt64 := by
  unfold ofName at h
  split at h
  · rename_i m hm
    obtain rfl := RowKey.int.inj h
    exact (Decimal.readCanonicalInt_range hm).2
  · cases h

end RowKey

namespace Layout
open OrderedMap

/-! ## Columns -/

variable (s : LayoutSettings) (row : Row)

theorem columnPairs_getElem? {i : Nat} {name : String} {v : Value}
    (hname : row.columns.names[i]? = some name) (hv : row.values[i]? = some v) :
    (columnPairs s row)[i]? = some (name, present s.stringifies v) := by
  have hzip : row.pairs[i]? = some (name, v) := List.getElem?_zip_eq_some.2 ⟨hname, hv⟩
  rw [columnPairs, List.getElem?_map, hzip]
  rfl

theorem columnPairs_names (rect : row.columns.count = row.size) :
    (columnPairs s row).map Prod.fst = row.columns.names := by
  have hfst : (columnPairs s row).map Prod.fst = row.pairs.map Prod.fst := by
    simp [columnPairs, Function.comp_def]
  rw [hfst, Row.pairs, List.map_fst_zip (Nat.le_of_eq rect)]

theorem columnPairs_values (rect : row.columns.count = row.size) :
    (columnPairs s row).map Prod.snd = row.values.map (present s.stringifies) := by
  have hsnd : (columnPairs s row).map Prod.snd =
      (row.pairs.map Prod.snd).map (present s.stringifies) := by
    simp [columnPairs, Function.comp_def]
  rw [hsnd, Row.pairs, List.map_snd_zip (Nat.le_of_eq rect.symm)]

theorem columnPairs_split (rect : row.columns.count = row.size) {i : Nat} {name : String} {v : Value}
    (hname : row.columns.names[i]? = some name) (hv : row.values[i]? = some v) :
    ∃ before after, columnPairs s row = before ++ (name, present s.stringifies v) :: after ∧
      before.length = i ∧ after.map Prod.fst = row.columns.names.drop (i + 1) := by
  have hi := columnPairs_getElem? s row hname hv
  obtain ⟨hlt, hget⟩ := List.getElem?_eq_some_iff.1 hi
  refine ⟨(columnPairs s row).take i, (columnPairs s row).drop (i + 1), ?_, ?_, ?_⟩
  · rw [← hget, ← List.drop_eq_getElem_cons hlt, List.take_append_drop]
  · rw [List.length_take]
    omega
  · rw [List.map_drop, columnPairs_names s row rect]

/-! ## The map of names -/

variable (pairs : List (String × Value))

def named : List (RowKey × Value) := pairs.map fun p => (.ofName p.1, p.2)

theorem get?_assoc (k : RowKey) : (assoc pairs).get? k = lookup k (named pairs).reverse := by
  rw [assoc, OrderedMap.ofList, get?_insertAll, get?_empty, Option.or_none, named]

theorem get?_assoc_append (before after : List (String × Value)) (k : RowKey) :
    (assoc (before ++ after)).get? k = ((assoc after).get? k).or ((assoc before).get? k) := by
  simp only [get?_assoc, named, List.map_append, List.reverse_append, lookup_append]

theorem get?_assoc_singleton (name : String) (v : Value) (k : RowKey) :
    (assoc [(name, v)]).get? k = if .ofName name = k then some v else none := by
  rw [get?_assoc]
  rfl

theorem get?_assoc_cons (name : String) (v : Value) (rest : List (String × Value)) (k : RowKey) :
    (assoc ((name, v) :: rest)).get? k =
      ((assoc rest).get? k).or (if .ofName name = k then some v else none) := by
  rw [← List.singleton_append, get?_assoc_append, get?_assoc_singleton]

theorem mem_keys_assoc {k : RowKey} :
    k ∈ (assoc pairs).keys ↔ ∃ name ∈ pairs.map Prod.fst, .ofName name = k := by
  rw [assoc, OrderedMap.ofList, keys_insertAll, List.mem_eraseDups]
  simp [OrderedMap.keys, OrderedMap.empty]

theorem mem_keys_assoc_of_cons {name : String} {v : Value} {rest : List (String × Value)}
    {k : RowKey} (hk : k ∈ (assoc ((name, v) :: rest)).keys) (other : k ≠ .ofName name) :
    k ∈ (assoc rest).keys := by
  rw [mem_keys_iff, get?_assoc_cons, if_neg (Ne.symm other), Option.or_none] at hk
  exact mem_keys_iff.2 hk

theorem get?_assoc_last {before after : List (String × Value)} {name : String} {v : Value}
    (last : name ∉ after.map Prod.fst) :
    (assoc (before ++ (name, v) :: after)).get? (.ofName name) = some v := by
  have hafter : (assoc after).get? (.ofName name) = none := by
    rw [get?_eq_none_iff, mem_keys_assoc]
    rintro ⟨other, hmem, hkey⟩
    exact last (RowKey.ofName_injective hkey ▸ hmem)
  rw [get?_assoc_append, get?_assoc_cons, hafter, if_pos rfl]
  rfl

end Layout
end SqlBridge
