import SqlBridge.Proofs.Fetch.Assoc

/-! # Rows keyed by name and position

Where positions are not appended, the map of a row is its map of names laid over
its positions: a name that looks like a position hides it, wherever the two
stand in the row. The keys stand in the order in which names and positions
arrive, column by column.
-/

namespace SqlBridge.Layout
open OrderedMap

/-- The keys as they arrive from position `i` on: of each column its name, then its position. -/
def arrivals (i : Nat) (names : List String) : List RowKey :=
  (names.zipIdx i).flatMap fun p => [.ofName p.1, .int p.2]

theorem arrivals_cons (i : Nat) (name : String) (names : List String) :
    arrivals i (name :: names) = .ofName name :: .int i :: arrivals (i + 1) names := rfl

def positions : Nat → List (String × Value) → List (RowKey × Value)
  | _, [] => []
  | i, (_, v) :: rest => (.int i, v) :: positions (i + 1) rest

theorem lookup_positions (i j : Nat) (pairs : List (String × Value)) :
    lookup (.int (i + j : Nat)) (positions i pairs) = pairs[j]?.map Prod.snd := by
  induction pairs generalizing i j with
  | nil => rfl
  | cons p rest ih =>
    cases j with
    | zero => simp [positions, lookup]
    | succ j =>
      have hne : (RowKey.int i) ≠ .int (i + (j + 1) : Nat) := by simp; omega
      have hij : i + (j + 1) = i + 1 + j := by omega
      rw [positions, lookup, if_neg hne, hij, ih, List.getElem?_cons_succ]

theorem keys_bothFrom (i : Nat) (m : OrderedMap RowKey Value) (pairs : List (String × Value)) :
    (bothFrom i m pairs).keys = (m.keys ++ arrivals i (pairs.map Prod.fst)).eraseDups := by
  induction pairs generalizing i m with
  | nil => simp [bothFrom, arrivals, eraseDups_keys]
  | cons p rest ih =>
    obtain ⟨name, v⟩ := p
    rw [bothFrom, ih, keys_insertIfNew, eraseDups_keys_insert, eraseDups_keys_insert,
      List.map_cons, arrivals_cons]

/-- What the map holds after the columns from position `i` on: first what their names say, then what
it held before, then what their positions say. -/
theorem get?_bothFrom (i : Nat) (m : OrderedMap RowKey Value) (pairs : List (String × Value))
    (k : RowKey) :
    (bothFrom i m pairs).get? k =
      ((assoc pairs).get? k).or ((m.get? k).or (lookup k (positions i pairs))) := by
  induction pairs generalizing i m with
  | nil => simp [bothFrom, positions, lookup, assoc, OrderedMap.ofList, insertAll]
  | cons p rest ih =>
    obtain ⟨name, v⟩ := p
    rw [bothFrom, ih, get?_insertIfNew, get?_insert, get?_assoc_cons, positions, lookup]
    cases (assoc rest).get? k with
    | some w => rfl
    | none =>
      by_cases hname : RowKey.ofName name = k
      · simp [hname]
      · by_cases hi : RowKey.int i = k
        · simp [hname, hi]
        · simp [hname, hi]

theorem get?_bothFrom_empty (pairs : List (String × Value)) (k : RowKey) :
    (bothFrom 0 .empty pairs).get? k =
      ((assoc pairs).get? k).or (lookup k (positions 0 pairs)) := by
  rw [get?_bothFrom, get?_empty, Option.none_or]

theorem both_of_positions {generation : Generation}
    (modern : generation = .v80 ∨ generation = .v81) (pairs : List (String × Value)) :
    both generation pairs = bothFrom 0 .empty pairs := by
  rcases modern with rfl | rfl <;> rfl

theorem mem_arrivals {names : List String} {k : RowKey} :
    k ∈ arrivals 0 names ↔
      (∃ name ∈ names, .ofName name = k) ∨ ∃ i < names.length, k = .int (i : Nat) := by
  simp only [arrivals, List.mem_flatMap, Prod.exists, List.mk_mem_zipIdx_iff_getElem?,
    List.mem_cons, List.not_mem_nil, or_false]
  constructor
  · rintro ⟨name, i, hi, rfl | rfl⟩
    · exact .inl ⟨name, List.mem_of_getElem? hi, rfl⟩
    · exact .inr ⟨i, (List.getElem?_eq_some_iff.1 hi).1, rfl⟩
  · rintro (⟨name, hname, rfl⟩ | ⟨i, hi, rfl⟩)
    · obtain ⟨i, hi⟩ := List.mem_iff_getElem?.1 hname
      exact ⟨name, i, hi, .inl rfl⟩
    · exact ⟨names[i], i, List.getElem?_eq_getElem hi, .inr rfl⟩

/-- The map of a row keyed both ways is the map of its names laid over its positions. -/
theorem layOut_both_positions (s : LayoutSettings) (row : Row) (objects : ObjectStore)
    (modern : s.generation = .v80 ∨ s.generation = .v81) (rect : row.columns.count = row.size) :
    ∃ byBoth byName : OrderedMap RowKey Value,
      layOut s row .both objects = .done (.ok (.map byBoth), objects) ∧
      layOut s row .assoc objects = .done (.ok (.map byName), objects) ∧
      (∀ k, k ∈ byBoth.keys ↔ k ∈ byName.keys ∨ ∃ i < row.size, k = .int (i : Nat)) ∧
      (∀ k ∈ byName.keys, byBoth.get? k = byName.get? k) ∧
      (∀ (i : Nat) (name : String) (v : Value), row.columns.names[i]? = some name →
        row.values[i]? = some v → name ∉ row.columns.names.drop (i + 1) →
        byName.get? (.ofName name) = some (present s.stringifies v)) ∧
      (∀ (i : Nat) (v : Value), row.values[i]? = some v → .int (i : Nat) ∉ byName.keys →
        byBoth.get? (.int (i : Nat)) = some (present s.stringifies v)) ∧
      byBoth.keys = (arrivals 0 row.columns.names).eraseDups := by
  have hnames := columnPairs_names s row rect
  have hkeys : (bothFrom 0 .empty (columnPairs s row)).keys =
      (arrivals 0 row.columns.names).eraseDups := by
    rw [keys_bothFrom, hnames]
    rfl
  refine ⟨both s.generation (columnPairs s row), assoc (columnPairs s row), rfl, rfl, ?_⟩
  rw [both_of_positions modern]
  refine ⟨fun k => ?_, fun k hk => ?_, fun i name v hname hv last => ?_, fun i v hv hk => ?_, hkeys⟩
  · rw [hkeys, List.mem_eraseDups, mem_arrivals, mem_keys_assoc, hnames]
    exact or_congr Iff.rfl (by rw [← rect]; rfl)
  · obtain ⟨w, hw⟩ := mem_keys_iff.1 hk
    rw [get?_bothFrom_empty, hw, Option.some_or]
  · obtain ⟨before, after, hsplit, -, hafter⟩ := columnPairs_split s row rect hname hv
    rw [hsplit]
    exact get?_assoc_last (hafter ▸ last)
  · obtain ⟨name, hname⟩ : ∃ name, row.columns.names[i]? = some name := by
      have hi := (List.getElem?_eq_some_iff.1 hv).1
      exact ⟨_, List.getElem?_eq_getElem (Nat.lt_of_lt_of_eq hi rect.symm)⟩
    have hposition := lookup_positions 0 i (columnPairs s row)
    rw [Nat.zero_add] at hposition
    rw [get?_bothFrom_empty, get?_eq_none_iff.2 hk, Option.none_or, hposition,
      columnPairs_getElem? s row hname hv]
    rfl

/-- A name may stand before or after the position that it looks like, and may repeat. -/
theorem layOut_both_collisions :
    let s : LayoutSettings := ⟨false, .v81, .standard⟩
    let row : Row := ⟨⟨["1", "a", "0", "1"], []⟩, [.text "w", .text "x", .text "y", .text "z"]⟩
    (s.generation = .v80 ∨ s.generation = .v81) ∧ row.columns.count = row.size ∧
      ∃ byBoth : OrderedMap RowKey Value,
        layOut s row .both .empty = .done (.ok (.map byBoth), .empty) ∧
        byBoth.keys = [.int 1, .int 0, .name "a", .int 2, .int 3] := by
  intro s row
  obtain ⟨byBoth, -, hboth, -, -, -, -, -, hkeys⟩ :=
    layOut_both_positions s row .empty (.inr rfl) rfl
  refine ⟨.inr rfl, rfl, byBoth, hboth, hkeys.trans ?_⟩
  decide

end SqlBridge.Layout
