import SqlBridge.Fetch.Layout

/-! # Layouts of converted values

The modes that need neither a class nor a target arrange the values of a row by
the names of its columns alone. So values that are converted before they are laid
out end up where they would have stood unconverted. Stringification is such a
conversion: it can be done to the row beforehand or to the layout afterwards.
-/

namespace SqlBridge

/-! ## Maps -/

namespace OrderedMap
variable {κ α β : Type} (f : α → β)

def mapValues (m : OrderedMap κ α) : OrderedMap κ β where
  entries := m.entries.map (Prod.map id f)
  nodup_keys := by simpa [Function.comp_def] using m.nodup_keys

theorem ext_entries {m m' : OrderedMap κ α} (same : m.entries = m'.entries) : m = m' := by
  cases m
  cases m'
  cases same
  rfl

theorem keys_mapValues (m : OrderedMap κ α) : (m.mapValues f).keys = m.keys := by
  simp [keys, mapValues]

variable [DecidableEq κ]

theorem lookup_map_value (k : κ) (entries : List (κ × α)) :
    lookup k (entries.map (Prod.map id f)) = (lookup k entries).map f := by
  induction entries with
  | nil => rfl
  | cons e rest ih =>
    obtain ⟨key, old⟩ := e
    by_cases h : key = k <;> simp [lookup, h, ih]

theorem get?_mapValues (m : OrderedMap κ α) (k : κ) : (m.mapValues f).get? k = (m.get? k).map f :=
  lookup_map_value f k m.entries

theorem put_map_value (k : κ) (v : α) (entries : List (κ × α)) :
    put k (f v) (entries.map (Prod.map id f)) = (put k v entries).map (Prod.map id f) := by
  induction entries with
  | nil => rfl
  | cons e rest ih =>
    obtain ⟨key, old⟩ := e
    by_cases h : key = k <;> simp [put, h, ih]

theorem mapValues_insert (m : OrderedMap κ α) (k : κ) (v : α) :
    (m.insert k v).mapValues f = (m.mapValues f).insert k (f v) :=
  ext_entries (put_map_value f k v m.entries).symm

theorem mapValues_insertIfNew (m : OrderedMap κ α) (k : κ) (v : α) :
    (m.insertIfNew k v).mapValues f = (m.mapValues f).insertIfNew k (f v) := by
  have present : (m.mapValues f).contains k = m.contains k := by
    rw [contains, get?_mapValues, Option.isSome_map, contains]
  rw [insertIfNew, insertIfNew, present]
  split
  · rfl
  · exact mapValues_insert f m k v

theorem mapValues_insertAll (m : OrderedMap κ α) (pairs : List (κ × α)) :
    (m.insertAll pairs).mapValues f = (m.mapValues f).insertAll (pairs.map (Prod.map id f)) := by
  induction pairs generalizing m with
  | nil => rfl
  | cons p rest ih =>
    have step : (m.insertAll (p :: rest)).mapValues f =
        ((m.insert p.1 p.2).insertAll rest).mapValues f := rfl
    rw [step, ih, mapValues_insert]
    rfl

end OrderedMap

open OrderedMap

/-! ## Rows -/

def ColumnGroup.mapValues (f : Value → Value) : ColumnGroup → ColumnGroup
  | one v => one (f v)
  | many vs => many (vs.map f)

theorem ColumnGroup.mapValues_add (f : Value → Value) (v : Value) (group : ColumnGroup) :
    (group.add v).mapValues f = (group.mapValues f).add (f v) := by
  cases group <;> simp [add, mapValues]

def Object.mapValues (f : Value → Value) (o : Object) : Object :=
  { o with properties := o.properties.mapValues f }

theorem Object.mapValues_assign (f : Value → Value) (o : Object) (pairs : List (String × Value)) :
    (o.assign pairs).mapValues f = (o.mapValues f).assign (pairs.map (Prod.map id f)) := by
  induction pairs generalizing o with
  | nil => rfl
  | cons p rest ih =>
    have step : (o.set p.1 p.2).mapValues f = (o.mapValues f).set p.1 (f p.2) := by
      simp only [set, mapValues, mapValues_insert]
    calc ((o.set p.1 p.2).assign rest).mapValues f
        = ((o.set p.1 p.2).mapValues f).assign (rest.map (Prod.map id f)) := ih _
      _ = ((o.mapValues f).set p.1 (f p.2)).assign (rest.map (Prod.map id f)) := by rw [step]

/-- The values of a fetched row converted. Its keys, their order and its groups are kept, and so is the
target of a row that was written to the caller's own object. -/
def FetchedRow.mapValues (f : Value → Value) : FetchedRow → FetchedRow
  | list values => list (values.map f)
  | map entries => map (entries.mapValues f)
  | groups entries => groups (entries.mapValues (ColumnGroup.mapValues f))
  | object o => object (o.mapValues f)
  | into target => into target

namespace Layout
variable (f : Value → Value)

theorem mapValues_assoc (pairs : List (String × Value)) :
    (assoc pairs).mapValues f = assoc (pairs.map (Prod.map id f)) := by
  rw [assoc, OrderedMap.ofList, mapValues_insertAll, assoc, OrderedMap.ofList, List.map_map,
    List.map_map]
  rfl

theorem mapValues_bothFrom (i : Nat) (m : OrderedMap RowKey Value) (pairs : List (String × Value)) :
    (bothFrom i m pairs).mapValues f = bothFrom i (m.mapValues f) (pairs.map (Prod.map id f)) := by
  induction pairs generalizing i m with
  | nil => rfl
  | cons p rest ih =>
    rw [bothFrom, ih, mapValues_insertIfNew, mapValues_insert]
    rfl

/-- The counter of free keys moves by the names alone. -/
theorem mapValues_appendFrom (free : Int) (m : OrderedMap RowKey Value)
    (pairs : List (String × Value)) :
    (appendFrom free m pairs).mapValues f =
      appendFrom free (m.mapValues f) (pairs.map (Prod.map id f)) := by
  induction pairs generalizing free m with
  | nil => rfl
  | cons p rest ih =>
    rw [appendFrom, ih, mapValues_insert, mapValues_insert]
    rfl

theorem mapValues_both (generation : Generation) (pairs : List (String × Value)) :
    (both generation pairs).mapValues f = both generation (pairs.map (Prod.map id f)) := by
  rw [both, both]
  split
  · exact mapValues_appendFrom f 0 .empty pairs
  · exact mapValues_bothFrom f 0 .empty pairs

theorem mapValues_addToGroup (m : OrderedMap String ColumnGroup) (p : String × Value) :
    (addToGroup m p).mapValues (ColumnGroup.mapValues f) =
      addToGroup (m.mapValues (ColumnGroup.mapValues f)) (Prod.map id f p) := by
  rw [addToGroup, addToGroup, Prod.map_fst, id_eq, get?_mapValues]
  cases m.get? p.1 with
  | none => exact mapValues_insert _ m p.1 (.one p.2)
  | some group =>
    rw [mapValues_insert, ColumnGroup.mapValues_add]
    rfl

theorem mapValues_groups (pairs : List (String × Value)) :
    (groups pairs).mapValues (ColumnGroup.mapValues f) = groups (pairs.map (Prod.map id f)) := by
  rw [groups, groups, List.foldl_map]
  exact (List.foldl_hom (OrderedMap.mapValues (ColumnGroup.mapValues f)) fun m p =>
    (mapValues_addToGroup f m p).symm).symm

/-! ## Modes that need nothing more -/

/-- The row that a mode makes of columns, unless it needs a class or a target. -/
def arrange? (generation : Generation) (pairs : List (String × Value)) : FetchMode → Option FetchedRow
  | .num => some (.list (pairs.map Prod.snd))
  | .assoc => some (.map (assoc pairs))
  | .both => some (.map (both generation pairs))
  | .named => some (.groups (groups pairs))
  | .object => some (.object (Object.standard.assign pairs))
  | .ofClass _ _ _ | .into _ => none

/-- A row is laid out as its columns are arranged, and nothing else happens. -/
theorem layOut_of_arrange? {s : LayoutSettings} {row : Row} {mode : FetchMode} {r : FetchedRow}
    (arranged : arrange? s.generation (columnPairs s row) mode = some r) (objects : ObjectStore) :
    layOut s row mode objects = .done (.ok r, objects) := by
  cases mode <;> cases arranged <;> rfl

theorem arrange?_isSome {mode : FetchMode} (bare : mode.style.needsMore = false)
    (generation : Generation) (pairs : List (String × Value)) :
    (arrange? generation pairs mode).isSome := by
  cases mode with
  | ofClass className args late => cases late <;> cases bare
  | into target => cases bare
  | both | num | assoc | named | object => rfl

/-- No mode looks at the values: converted before or after, they are arranged in the same way. -/
theorem arrange?_map (generation : Generation) (pairs : List (String × Value)) (mode : FetchMode) :
    arrange? generation (pairs.map (Prod.map id f)) mode =
      (arrange? generation pairs mode).map (FetchedRow.mapValues f) := by
  cases mode with
  | num => simp [arrange?, FetchedRow.mapValues]
  | assoc => simp [arrange?, FetchedRow.mapValues, mapValues_assoc]
  | both => simp [arrange?, FetchedRow.mapValues, mapValues_both]
  | named => simp [arrange?, FetchedRow.mapValues, mapValues_groups]
  | object =>
    simp only [arrange?, FetchedRow.mapValues, Option.map_some, Object.mapValues_assign]
    rfl
  | ofClass | into => rfl

end Layout

/-! ## Stringification -/

namespace Value

theorem stringify_null : null.stringify = null := rfl

theorem stringify_eq_text {v : Value} (some : v ≠ null) : ∃ s, v.stringify = text s := by
  cases v with
  | null => exact absurd rfl some
  | bool | int | float | text => exact ⟨_, rfl⟩

theorem stringify_stringify (v : Value) : v.stringify.stringify = v.stringify := by
  cases v <;> rfl

end Value

def Row.stringified (row : Row) : Row := { row with values := row.values.map Value.stringify }

namespace Layout

theorem columnPairs_eq (s : LayoutSettings) (row : Row) :
    columnPairs s row = row.pairs.map (Prod.map id (present s.stringifies)) := rfl

theorem columnPairs_of_native {s : LayoutSettings} (native : s.stringifies = false) (row : Row) :
    columnPairs s row = row.pairs := by
  have kept : present false = id := rfl
  rw [columnPairs_eq, native, kept, Prod.map_id, List.map_id]

theorem columnPairs_of_text {s : LayoutSettings} (text : s.stringifies = true) (row : Row) :
    columnPairs s row = row.pairs.map (Prod.map id Value.stringify) := by
  have converted : present true = Value.stringify := rfl
  rw [columnPairs_eq, text, converted]

theorem pairs_stringified (row : Row) :
    row.stringified.pairs = row.pairs.map (Prod.map id Value.stringify) := by
  rw [Row.pairs, Row.stringified, List.zip_map_right, Row.pairs]

/-- Values that are text already are handed out as they are. -/
theorem columnPairs_stringified (s : LayoutSettings) (row : Row) :
    columnPairs s row.stringified = row.pairs.map (Prod.map id Value.stringify) := by
  cases text : s.stringifies with
  | false => rw [columnPairs_of_native text, pairs_stringified]
  | true =>
    have twice : Value.stringify ∘ Value.stringify = Value.stringify :=
      funext Value.stringify_stringify
    rw [columnPairs_of_text text, pairs_stringified, List.map_map, Prod.map_comp_map, twice]
    rfl

/-- Stringifying is done to the values alone. In every mode that needs nothing more the stringified
layout of a row has the keys, the order and the groups of the layout of its values as they are, each
value replaced by its text, and it is also the layout of the row whose values were stringified first.
The last generation lays values out as they are when it is not asked to stringify; the earlier ones
always stringify, and arrange the columns as the last one does, but for appended positions. -/
theorem layOut_stringified (row : Row) {mode : FetchMode} (classes : ClassTable)
    (objects : ObjectStore) (bare : mode.style.needsMore = false) :
    (∀ v : Value, (v = .null → v.stringify = .null) ∧ (v ≠ .null → ∃ s, v.stringify = .text s) ∧
      v.stringify.stringify = v.stringify) ∧
    ∃ native : Generation → FetchedRow,
      (∀ g, arrange? g row.pairs mode = some (native g)) ∧
      native .v80 = native .v81 ∧ (mode ≠ .both → native .v7 = native .v81) ∧
      layOut ⟨false, .v81, classes⟩ row mode objects = .done (.ok (native .v81), objects) ∧
      layOut ⟨true, .v81, classes⟩ row mode objects =
        .done (.ok ((native .v81).mapValues Value.stringify), objects) ∧
      (∀ asked, ∀ g ∈ [Generation.v7, .v80], layOut ⟨asked, g, classes⟩ row mode objects =
        .done (.ok ((native g).mapValues Value.stringify), objects)) ∧
      ∀ asked g, layOut ⟨asked, g, classes⟩ row.stringified mode objects =
        .done (.ok ((native g).mapValues Value.stringify), objects) := by
  let native (g : Generation) : FetchedRow :=
    (arrange? g row.pairs mode).get (arrange?_isSome bare g row.pairs)
  have arranged (g : Generation) : arrange? g row.pairs mode = some (native g) :=
    (Option.some_get _).symm
  have converted (g : Generation) :
      arrange? g (row.pairs.map (Prod.map id Value.stringify)) mode =
        some ((native g).mapValues Value.stringify) := by
    rw [arrange?_map, arranged g]
    rfl
  have text (s : LayoutSettings) (asked : s.stringifies = true) :
      layOut s row mode objects =
        .done (.ok ((native s.generation).mapValues Value.stringify), objects) :=
    layOut_of_arrange? ((columnPairs_of_text asked row).symm ▸ converted s.generation) objects
  refine ⟨fun v => ⟨?_, Value.stringify_eq_text, v.stringify_stringify⟩, native, arranged, ?_, ?_,
    ?_, text ⟨true, .v81, classes⟩ rfl, ?_, ?_⟩
  · rintro rfl
    exact Value.stringify_null
  · have same : arrange? .v80 row.pairs mode = arrange? .v81 row.pairs mode := by
      cases mode <;> rfl
    simpa [arranged] using same
  · intro positionless
    have same : arrange? .v7 row.pairs mode = arrange? .v81 row.pairs mode := by
      cases mode with
      | both => exact absurd rfl positionless
      | _ => rfl
    simpa [arranged] using same
  · exact layOut_of_arrange?
      ((columnPairs_of_native (s := ⟨false, .v81, classes⟩) rfl row).symm ▸ arranged .v81) objects
  · intro asked g earlier
    have forced : (⟨asked, g, classes⟩ : LayoutSettings).stringifies = true := by
      simp only [List.mem_cons, List.not_mem_nil, or_false] at earlier
      rcases earlier with rfl | rfl <;> simp [LayoutSettings.stringifies, Generation.keepsTypes]
    exact text ⟨asked, g, classes⟩ forced
  · intro asked g
    exact layOut_of_arrange?
      ((columnPairs_stringified ⟨asked, g, classes⟩ row).symm ▸ converted g) objects

/-- Of a name that two columns carry the values are converted in their group. -/
theorem layOut_stringified_repeated :
    let row : Row := ⟨.ofTypes ["n", "a", "n"] [], [.int 7, .null, .bool true]⟩
    FetchMode.named.style.needsMore = false ∧
      ∃ byName : OrderedMap String ColumnGroup,
        layOut ⟨false, .v80, .standard⟩ row .named .empty = .done (.ok (.groups byName), .empty) ∧
        byName.entries = [("n", .many [.text "7", .text "1"]), ("a", .one .null)] := by
  intro row
  obtain ⟨-, native, arranged, -, -, -, -, earlier, -⟩ :=
    layOut_stringified row .standard .empty (show FetchMode.named.style.needsMore = false from rfl)
  refine ⟨rfl, (groups row.pairs).mapValues (ColumnGroup.mapValues Value.stringify), ?_, by decide +kernel⟩
  have laid := earlier false .v80 (by decide)
  rw [← Option.some_inj.mp (arranged .v80)] at laid
  exact laid

end Layout
end SqlBridge
