import Mathlib.Data.List.Nodup
import SqlBridge.Proofs.Fetch.Appended
import SqlBridge.Proofs.Fetch.NameKeys
import SqlBridge.Proofs.Fetch.Positions
import SqlBridge.Proofs.Session.Fetch

/-! # Rendered rows

A row is rendered as JSON under the texts of its keys, and of two members of one
name the later would replace the earlier. That never happens: a map holds no text
that spells an integer key, whether its integers come from names, are positions or
were appended. So there is one member for each entry.
-/

namespace SqlBridge

namespace Json
variable {α : Type}

theorem perm_addMember {name : String} {ms : List (String × α)} (fresh : name ∉ ms.map Prod.fst)
    (value : α) : (addMember name value ms).Perm ((name, value) :: ms) := by
  induction ms with
  | nil => rfl
  | cons m rest ih =>
    rw [List.map_cons, List.mem_cons, not_or] at fresh
    rw [addMember, if_neg fresh.1]
    split
    · rfl
    · exact ((ih fresh.2).cons m).trans (.swap _ _ _)

theorem perm_members {pairs : List (String × α)} (distinct : (pairs.map Prod.fst).Nodup) :
    (members pairs).Perm pairs := by
  induction pairs using List.reverseRecOn with
  | nil => rfl
  | append_singleton before p ih =>
    rw [List.map_append, List.nodup_append] at distinct
    have earlier := ih distinct.1
    have fresh : p.1 ∉ (members before).map Prod.fst := fun there =>
      distinct.2.2 p.1 ((earlier.map Prod.fst).mem_iff.mp there) p.1 (by simp) rfl
    rw [members, List.foldl_append]
    exact (perm_addMember fresh p.2).trans ((earlier.cons p).trans (List.perm_append_singleton p before).symm)

/-- The members are those of the entries: one for each, under the text of its key. -/
structure OnePerEntry {κ : Type} [DecidableEq κ] (m : OrderedMap κ α) (text : κ → String)
    (json : α → Json) (ms : List (String × Json)) : Prop where
  count : ms.length = m.size
  distinct : (ms.map Prod.fst).Nodup
  member : ∀ t j, (t, j) ∈ ms ↔ ∃ k v, m.get? k = some v ∧ text k = t ∧ json v = j

/-- Keys that are told apart by their texts are not merged. -/
theorem onePerEntry {κ : Type} [DecidableEq κ] (m : OrderedMap κ α) {text : κ → String}
    (json : α → Json) (apart : ∀ k ∈ m.keys, ∀ k' ∈ m.keys, text k = text k' → k = k') :
    OnePerEntry m text json (members (m.entries.map fun e => (text e.1, json e.2))) := by
  have texts : (m.entries.map fun e => (text e.1, json e.2)).map Prod.fst = m.keys.map text := by
    rw [OrderedMap.keys, List.map_map, List.map_map]
    rfl
  have distinct : ((m.entries.map fun e => (text e.1, json e.2)).map Prod.fst).Nodup := by
    rw [texts]
    exact List.Nodup.map_on apart m.nodup_keys
  have all := perm_members distinct
  refine ⟨?_, (all.map Prod.fst).nodup_iff.mpr distinct, fun t j => ?_⟩
  · rw [all.length_eq, List.length_map]
    rfl
  · simp only [all.mem_iff, List.mem_map, Prod.exists, Prod.mk.injEq, OrderedMap.get?,
      OrderedMap.lookup_eq_some_iff m.nodup_keys]

end Json

/-! ## The keys of maps -/

namespace RowKey
open Decimal

/-- The key is the one of the name that shows it. -/
def Canonical (k : RowKey) : Prop := ofName k.text = k

theorem canonical_ofName (name : String) : (ofName name).Canonical := by rw [Canonical, text_ofName]

theorem canonical_int {i : Int} (low : minInt64 ≤ i) (high : i ≤ maxInt64) : (int i).Canonical := by
  rw [Canonical, ofName_eq_int_iff, text, intText, String.toList_ofList]
  exact readCanonicalInt_intDigits low high

theorem Canonical.eq_of_text {k k' : RowKey} (canonical : k.Canonical) (canonical' : k'.Canonical)
    (same : k.text = k'.text) : k = k' := by
  rw [← canonical, same, canonical']

end RowKey

namespace Layout
open OrderedMap Decimal
variable {k : RowKey} {pairs : List (String × Value)}

theorem canonical_assoc (there : k ∈ (assoc pairs).keys) : k.Canonical := by
  obtain ⟨name, -, rfl⟩ := (mem_keys_assoc pairs).mp there
  exact RowKey.canonical_ofName name

/-- Positions are counted in 64 bits. -/
theorem canonical_bothFrom (fits : pairs.length ≤ Nat.pow 2 63)
    (there : k ∈ (bothFrom 0 .empty pairs).keys) : k.Canonical := by
  rw [keys_bothFrom, List.mem_eraseDups] at there
  obtain ⟨name, -, rfl⟩ | ⟨i, position, rfl⟩ := mem_arrivals.mp there
  · exact RowKey.canonical_ofName name
  · have half : Nat.pow 2 63 = 9223372036854775808 := rfl
    rw [half] at fits
    rw [List.length_map] at position
    refine RowKey.canonical_int ?_ ?_
    · rw [minInt64]
      omega
    · rw [maxInt64]
      omega

/-- The counter of free keys stays among the integers of 64 bits. -/
theorem canonical_appendFrom {free : Int} {m : OrderedMap RowKey Value} (low : 0 ≤ free)
    (high : free ≤ maxInt64) (before : ∀ k ∈ m.keys, k.Canonical)
    (there : k ∈ (appendFrom free m pairs).keys) : k.Canonical := by
  induction pairs generalizing free m with
  | nil => exact before k there
  | cons p rest ih =>
    obtain ⟨name, v⟩ := p
    have positive := Int.le_trans low (le_freeAfter free (.ofName name))
    have within := freeAfter_le high (.ofName name)
    have next : 0 ≤ nextKey (freeAfter free (.ofName name)) :=
      Int.le_min.mpr ⟨Int.le_add_one positive, by decide⟩
    refine ih next (nextKey_le _) (fun k' written => ?_) there
    obtain rfl | written := mem_keys_insert.mp written
    · exact RowKey.canonical_int (Int.le_trans (by decide) positive) within
    obtain rfl | written := mem_keys_insert.mp written
    · exact RowKey.canonical_ofName name
    · exact before k' written

theorem canonical_both (generation : Generation) (fits : pairs.length ≤ Nat.pow 2 63)
    (there : k ∈ (both generation pairs).keys) : k.Canonical := by
  rw [both] at there
  split at there
  · exact canonical_appendFrom (Int.le_refl 0) (by decide) (fun _ none => by cases none) there
  · exact canonical_bothFrom fits there

variable {τ : Type} {respond : String → Request → StateM τ Answer} {s : LayoutSettings} {row : Row}
  {mode : FetchMode} {objects objects' : ObjectStore} {t : τ} {fetched : FetchedRow}

/-- Whatever a row is laid out as, the keys of a map are canonical. -/
theorem canonical_of_layOut (fits : mode = .both → row.size ≤ Nat.pow 2 63)
    (laid : ((layOut s row mode objects).run respond t).1 = (.ok fetched, objects'))
    {entries : OrderedMap RowKey Value} (isMap : fetched = .map entries) (there : k ∈ entries.keys) :
    k.Canonical := by
  subst isMap
  cases mode with
  | assoc =>
    cases laid
    exact canonical_assoc there
  | both =>
    have few : (columnPairs s row).length ≤ Nat.pow 2 63 := by
      rw [columnPairs, List.length_map, Row.pairs, List.length_zip]
      exact Nat.le_trans (Nat.min_le_right _ _) (fits rfl)
    cases laid
    exact canonical_both s.generation few there
  | ofClass className args late =>
    cases known : s.classes.find? className with
    | none =>
      simp only [layOut, known] at laid
      cases laid
    | some c =>
      simp only [layOut, known, Callout.run_map] at laid
      generalize ((ofClass c args late _).run respond t).1 = built at laid
      cases built <;> cases laid
  | num => cases laid
  | named => cases laid
  | object => cases laid
  | into target => cases laid

end Layout

/-! ## Rows -/

/-- What the JSON of a row holds: of a list the JSON of each value in its place, and of anything else one
member for each entry, where no two keys have the same text. -/
def FetchedRow.RendersAs (objects : ObjectStore) (j : Json) : FetchedRow → Prop
  | list values =>
    ∃ items, j = .arr items ∧ items.length = values.length ∧
      ∀ i : Nat, items[i]? = values[i]?.map Value.toJson
  | map entries =>
    (∃ ms, j = .obj ms ∧ Json.OnePerEntry entries RowKey.text Value.toJson ms) ∧
      ∀ k ∈ entries.keys, ∀ k' ∈ entries.keys, k.text = k'.text → k = k'
  | groups entries => ∃ ms, j = .obj ms ∧ Json.OnePerEntry entries id ColumnGroup.toJson ms
  | object o => ∃ ms, j = .obj ms ∧ Json.OnePerEntry o.properties id Value.toJson ms
  | into target =>
    ∃ ms, j = .obj ms ∧ Json.OnePerEntry (objects.get target).properties id Value.toJson ms

theorem Object.toJson_onePerEntry (o : Object) :
    ∃ ms, o.toJson = .obj ms ∧ Json.OnePerEntry o.properties id Value.toJson ms :=
  ⟨_, rfl, Json.onePerEntry o.properties Value.toJson fun _ _ _ _ same => same⟩

/-- Rows are rendered whole if the keys of maps are told apart by their texts. -/
theorem FetchedRow.rendersAs_toJson {fetched : FetchedRow}
    (canonical : ∀ entries, fetched = map entries → ∀ k ∈ entries.keys, k.Canonical)
    (objects : ObjectStore) : fetched.RendersAs objects (fetched.toJson objects) := by
  cases fetched with
  | list values => exact ⟨_, rfl, List.length_map _, fun i => List.getElem?_map⟩
  | map entries =>
    have apart : ∀ k ∈ entries.keys, ∀ k' ∈ entries.keys, k.text = k'.text → k = k' :=
      fun k there k' there' => (canonical entries rfl k there).eq_of_text (canonical entries rfl k' there')
    exact ⟨⟨_, rfl, Json.onePerEntry entries Value.toJson apart⟩, apart⟩
  | groups entries =>
    exact ⟨_, rfl, Json.onePerEntry entries ColumnGroup.toJson fun _ _ _ _ same => same⟩
  | object o => exact o.toJson_onePerEntry
  | into target => exact (objects.get target).toJson_onePerEntry

namespace Layout
open Decimal

/-- Take any row with a value for each column, where 64 bits can count the positions if they are to be keys.
Lay it out in any mode under any settings, whatever constructors do on the way. The JSON of what comes out,
rendered whenever one likes, merges no entries: there is one member for each entry of a map, for each group
and for each property of an object, its name is the text of the entry's key, and its value is that of the
entry. A list has one item for each value of the row. No two keys of a map have the same text, be they integers
or names. -/
theorem layOut_rendered {τ : Type} {respond : String → Request → StateM τ Answer} {s : LayoutSettings}
    {row : Row} {mode : FetchMode} {objects objects' : ObjectStore} {t : τ} {fetched : FetchedRow}
    (rect : row.columns.count = row.size) (fits : mode = .both → row.size ≤ Nat.pow 2 63)
    (laid : ((layOut s row mode objects).run respond t).1 = (.ok fetched, objects'))
    (later : ObjectStore) :
    fetched.RendersAs later (fetched.toJson later) ∧
      (mode = .num → fetched = .list (row.values.map (present s.stringifies))) := by
  refine ⟨FetchedRow.rendersAs_toJson (fun entries isMap k => canonical_of_layOut fits laid isMap) later, ?_⟩
  rintro rfl
  cases laid
  rw [columnPairs_values s row rect]

/-- The largest integer is a key, and the next one a text. The counter of free keys stops at the former, and
both members are there. -/
theorem layOut_rendered_largest :
    let s : LayoutSettings := ⟨false, .v7, .standard⟩
    let row : Row := ⟨⟨["9223372036854775807", "9223372036854775808"], []⟩, [.text "a", .text "b"]⟩
    let refused (_ : String) (_ : Request) : StateM Unit Answer := pure (.ok .null)
    row.columns.count = row.size ∧ row.size ≤ Nat.pow 2 63 ∧
    ∃ entries ms, ((layOut s row .both .empty).run refused ()).1 = (.ok (.map entries), .empty) ∧
      entries.keys = [.int maxInt64, .name "9223372036854775808"] ∧
      (FetchedRow.map entries).toJson .empty = .obj ms ∧ ms.length = 2 ∧
      ("9223372036854775807", .str "b") ∈ ms ∧ ("9223372036854775808", .str "b") ∈ ms := by
  intro s row refused
  have rect : row.columns.count = row.size := rfl
  have laid : ((layOut s row .both .empty).run refused ()).1 =
      (.ok (.map (both .v7 (columnPairs s row))), .empty) := rfl
  obtain ⟨⟨⟨ms, rendered, whole⟩, -⟩, -⟩ := layOut_rendered rect (fun _ => by decide) laid .empty
  refine ⟨rect, by decide, both .v7 (columnPairs s row), ms, laid, by decide +kernel, rendered, whole.count, ?_, ?_⟩
  · exact (whole.member _ _).mpr ⟨.int maxInt64, .text "b", by decide +kernel, by decide +kernel, rfl⟩
  · exact (whole.member _ _).mpr ⟨.name "9223372036854775808", .text "b", by decide +kernel, rfl, rfl⟩

end Layout
end SqlBridge
