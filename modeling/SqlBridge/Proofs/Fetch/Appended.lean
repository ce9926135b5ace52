import SqlBridge.Proofs.Fetch.Assoc

/-! # Rows with appended positions

The first generation appends every column under the next free integer key. The
counter of free keys stays beyond all integer keys of the map until the largest
64-bit integer is in use; from then on it stands still and appending overwrites.
The main statement says for which rows no append overwrites anything, and for
which rows every name still holds its own value.
-/

namespace SqlBridge.Layout
open OrderedMap Decimal

/-! ## The counter of free keys -/

/-- The counter is beyond every integer key of the map, as far as 64 bits go. -/
structure Tracks (free : Int) (m : OrderedMap RowKey Value) : Prop where
  free_le : free ≤ maxInt64
  key_le : ∀ n, .int n ∈ m.keys → n ≤ maxInt64
  next_le : ∀ n, .int n ∈ m.keys → nextKey n ≤ free

theorem nextKey_le (n : Int) : nextKey n ≤ maxInt64 := Int.min_le_right _ _

theorem le_freeAfter (free : Int) (k : RowKey) : free ≤ freeAfter free k := by
  cases k with
  | int n => exact Int.le_max_left _ _
  | name s => exact Int.le_refl _

theorem freeAfter_le {free : Int} (h : free ≤ maxInt64) (k : RowKey) :
    freeAfter free k ≤ maxInt64 := by
  cases k with
  | int n => exact Int.max_le.2 ⟨h, nextKey_le n⟩
  | name s => exact h

theorem tracks_empty : Tracks 0 .empty where
  free_le := by decide
  key_le n h := by cases h
  next_le n h := by cases h

variable {free : Int} {m : OrderedMap RowKey Value}

/-- A name that is an integer moves the counter beyond itself. -/
theorem Tracks.insert_name (h : Tracks free m) (name : String) (v : Value) :
    Tracks (freeAfter free (.ofName name)) (m.insert (.ofName name) v) := by
  refine ⟨freeAfter_le h.free_le _, fun n hn => ?_, fun n hn => ?_⟩
  · rcases mem_keys_insert.1 hn with hn | hn
    · exact RowKey.ofName_le hn.symm
    · exact h.key_le n hn
  · rcases mem_keys_insert.1 hn with hn | hn
    · rw [← hn]
      exact Int.le_max_right _ _
    · exact Int.le_trans (h.next_le n hn) (le_freeAfter free _)

theorem Tracks.insert_free (h : Tracks free m) (v : Value) :
    Tracks (nextKey free) (m.insert (.int free) v) := by
  have hle : free ≤ nextKey free := Int.le_min.2 ⟨by omega, h.free_le⟩
  refine ⟨nextKey_le free, fun n hn => ?_, fun n hn => ?_⟩
  · rcases mem_keys_insert.1 hn with hn | hn
    · obtain rfl := RowKey.int.inj hn
      exact h.free_le
    · exact h.key_le n hn
  · rcases mem_keys_insert.1 hn with hn | hn
    · obtain rfl := RowKey.int.inj hn
      exact Int.le_refl _
    · exact Int.le_trans (h.next_le n hn) hle

theorem Tracks.eq_max_of_next_le (h : Tracks free m) {n : Int} (hn : nextKey n ≤ free)
    (hle : free ≤ n) : free = maxInt64 := by
  have := h.free_le
  unfold nextKey at hn
  omega

theorem Tracks.eq_max (h : Tracks free m) (hmax : .int maxInt64 ∈ m.keys) : free = maxInt64 :=
  h.eq_max_of_next_le (h.next_le _ hmax) h.free_le

theorem Tracks.free_mem_iff (h : Tracks free m) :
    .int free ∈ m.keys ↔ .int maxInt64 ∈ m.keys := by
  constructor
  · intro hfree
    rwa [← h.eq_max_of_next_le (h.next_le _ hfree) (Int.le_refl _)]
  · intro hmax
    rwa [h.eq_max hmax]

/-! ## Names keep their values -/

/-- Below the largest integer an append hides nothing that the map holds. -/
theorem Tracks.get?_insert_free (h : Tracks free m) {k : RowKey} (hk : k ≠ .int maxInt64)
    (held : k ∈ m.keys) (v : Value) : (m.insert (.int free) v).get? k = m.get? k := by
  have hne : RowKey.int free ≠ k := by
    rintro rfl
    exact hk (congrArg _ (h.eq_max (h.free_mem_iff.1 held)))
  rw [get?_insert, if_neg hne]

/-- Below the largest integer a key that the map held, or that a name has, is seen as if nothing had
been appended. -/
theorem get?_appendFrom (h : Tracks free m) {pairs : List (String × Value)} {k : RowKey}
    (hk : k ≠ .int maxInt64) (held : k ∈ m.keys ∨ k ∈ (assoc pairs).keys) :
    (appendFrom free m pairs).get? k = ((assoc pairs).get? k).or (m.get? k) := by
  induction pairs generalizing free m with
  | nil => rfl
  | cons p rest ih =>
    obtain ⟨name, v⟩ := p
    have hname := h.insert_name name v
    rw [appendFrom, get?_assoc_cons, Option.or_assoc]
    by_cases hin : k ∈ (m.insert (.ofName name) v).keys
    · rw [ih (hname.insert_free v) (.inl (mem_keys_insert.2 (.inr hin))),
        hname.get?_insert_free hk hin, get?_insert]
      by_cases hkey : RowKey.ofName name = k <;> simp [hkey]
    · -- such a key belongs to a later name, whose write is seen over any append
      rw [mem_keys_insert, not_or] at hin
      have hrest := mem_keys_assoc_of_cons (held.resolve_left hin.2) hin.1
      obtain ⟨w, hw⟩ := mem_keys_iff.1 hrest
      rw [ih (hname.insert_free v) (.inr hrest), hw]
      rfl

/-- Once the largest integer is in use, or when a name has it, it ends up with the last column. -/
theorem get?_appendFrom_max (h : Tracks free m) {pairs : List (String × Value)}
    (held : .int maxInt64 ∈ m.keys ∨ .int maxInt64 ∈ (assoc pairs).keys) :
    (appendFrom free m pairs).get? (.int maxInt64) =
      (pairs.getLast?.map Prod.snd).or (m.get? (.int maxInt64)) := by
  induction pairs generalizing free m with
  | nil => rfl
  | cons p rest ih =>
    obtain ⟨name, v⟩ := p
    have hname := h.insert_name name v
    rw [appendFrom]
    by_cases hin : RowKey.int maxInt64 ∈ (m.insert (.ofName name) v).keys
    · have hheld : ((m.insert (.ofName name) v).insert
          (.int (freeAfter free (.ofName name))) v).get? (.int maxInt64) = some v := by
        rw [hname.eq_max hin, get?_insert, if_pos rfl]
      rw [ih (hname.insert_free v) (.inl (mem_keys_iff.2 ⟨v, hheld⟩)), hheld]
      cases rest with
      | nil => rfl
      | cons q rest => rw [List.getLast?_cons_cons, List.getLast?_cons, Option.map_some]; rfl
    · rw [mem_keys_insert, not_or] at hin
      have hrest := mem_keys_assoc_of_cons (held.resolve_left hin.2) hin.1
      rw [ih (hname.insert_free v) (.inr hrest)]
      cases rest with
      | nil => cases hrest
      | cons q rest => rw [List.getLast?_cons_cons, List.getLast?_cons, Option.map_some]; rfl

/-! ## Room for the positions -/

theorem forall_split_cons {α : Type} {x : α} {xs : List α} {Q : List α → α → List α → Prop} :
    (∀ before y after, x :: xs = before ++ y :: after → Q before y after) ↔
      Q [] x xs ∧ ∀ before y after, xs = before ++ y :: after → Q (x :: before) y after := by
  constructor
  · intro h
    exact ⟨h [] x xs rfl, fun before y after e => h (x :: before) y after (by rw [e]; rfl)⟩
  · rintro ⟨hhead, htail⟩ before y after e
    cases before with
    | nil =>
      obtain ⟨rfl, rfl⟩ := List.cons.inj e
      exact hhead
    | cons z before =>
      obtain ⟨rfl, he⟩ := List.cons.inj e
      exact htail before y after he

/-- Each column is written under its name and then under an integer that the map did not hold. -/
def AppendsFresh (pairs : List (String × Value)) : Prop :=
  ∀ before p after, pairs = before ++ p :: after →
    ∃ n : Int, .int n ∉ ((both .v7 before).insert (.ofName p.1) p.2).keys ∧
      both .v7 (before ++ [p]) = ((both .v7 before).insert (.ofName p.1) p.2).insert (.int n) p.2

/-- There are no more columns than integers from zero on, and above an integer name there are as
many integers as columns from that name on. -/
def HasRoom (pairs : List (String × Value)) : Prop :=
  pairs.length ≤ maxInt64 + 1 ∧ ∀ before p after, pairs = before ++ p :: after →
    ∀ n : Int, .ofName p.1 = RowKey.int n → n + (after.length + 1) ≤ maxInt64

def freeFrom (free : Int) : List (String × Value) → Int
  | [] => free
  | (name, _) :: rest => freeFrom (nextKey (freeAfter free (.ofName name))) rest

theorem tracks_appendFrom (h : Tracks free m) (pairs : List (String × Value)) :
    Tracks (freeFrom free pairs) (appendFrom free m pairs) := by
  induction pairs generalizing free m with
  | nil => exact h
  | cons p rest ih => exact ih ((h.insert_name p.1 p.2).insert_free p.2)

theorem appendFrom_append (before : List (String × Value)) (p : String × Value) :
    appendFrom free m (before ++ [p]) =
      ((appendFrom free m before).insert (.ofName p.1) p.2).insert
        (.int (freeAfter (freeFrom free before) (.ofName p.1))) p.2 := by
  induction before generalizing free m with
  | nil => rfl
  | cons q before ih => exact ih

theorem insert_fresh_iff {m : OrderedMap RowKey Value} {n : Int} {v : Value} :
    (∃ n' : Int, .int n' ∉ m.keys ∧ m.insert (.int n) v = m.insert (.int n') v) ↔
      .int n ∉ m.keys := by
  constructor
  · rintro ⟨n', hn', heq⟩ hn
    have hkeys := congrArg (fun m => m.keys.length) heq
    simp only [keys_insert, if_pos hn, if_neg hn', List.length_append, List.length_singleton] at hkeys
    omega
  · exact fun hn => ⟨n, hn, rfl⟩

/-- An append finds its key free exactly while the largest integer is not in use. -/
theorem appendsFresh_iff (pairs : List (String × Value)) :
    AppendsFresh pairs ↔ ∀ before p after, pairs = before ++ p :: after →
      .int maxInt64 ∉ ((appendFrom 0 .empty before).insert (.ofName p.1) p.2).keys := by
  have hboth : ∀ pairs, both .v7 pairs = appendFrom 0 .empty pairs := fun _ => rfl
  refine forall_congr' fun before => forall_congr' fun p => forall_congr' fun after =>
    imp_congr_right fun _ => ?_
  have htracks := (tracks_appendFrom tracks_empty before).insert_name p.1 p.2
  rw [hboth, hboth, appendFrom_append, insert_fresh_iff, htracks.free_mem_iff]

/-- One column with `left` more behind it uses up one integer of the room. -/
theorem room_step (hfree : free ≤ maxInt64) (key : RowKey)
    (hkey : ∀ n, key = .int n → n ≤ maxInt64) (left : Nat) :
    (key ≠ .int maxInt64 ∧ (0 < left → freeAfter free key ≠ maxInt64 ∧
        nextKey (freeAfter free key) + left ≤ maxInt64 + 1)) ↔
      free + (left + 1 : Nat) ≤ maxInt64 + 1 ∧ ∀ n, key = .int n → n + (left + 1) ≤ maxInt64 := by
  cases key with
  | int n =>
    have hn := hkey n rfl
    simp only [ne_eq, RowKey.int.injEq, freeAfter, nextKey, forall_eq']
    omega
  | name s =>
    simp only [ne_eq, reduceCtorEq, not_false_eq_true, true_and, freeAfter, nextKey,
      IsEmpty.forall_iff, implies_true, and_true]
    omega

/-- How far the counter may be for the columns that are left. -/
theorem max_notMem_iff (h : Tracks free m) (pairs : List (String × Value)) :
    (∀ before p after, pairs = before ++ p :: after →
      .int maxInt64 ∉ ((appendFrom free m before).insert (.ofName p.1) p.2).keys) ↔
    (0 < pairs.length → .int maxInt64 ∉ m.keys ∧ free + pairs.length ≤ maxInt64 + 1) ∧
      ∀ before p after, pairs = before ++ p :: after →
        ∀ n : Int, .ofName p.1 = RowKey.int n → n + (after.length + 1) ≤ maxInt64 := by
  induction pairs generalizing free m with
  | nil => simp
  | cons p rest ih =>
    obtain ⟨name, v⟩ := p
    have hname := h.insert_name name v
    have hstep : ∀ before, appendFrom free m ((name, v) :: before) =
        appendFrom (nextKey (freeAfter free (.ofName name)))
          ((m.insert (.ofName name) v).insert (.int (freeAfter free (.ofName name))) v) before :=
      fun _ => rfl
    rw [forall_split_cons, forall_split_cons]
    simp only [hstep]
    rw [ih (hname.insert_free v), mem_keys_insert, appendFrom, mem_keys_insert]
    have hroom := room_step h.free_le (.ofName name) (fun _ => RowKey.ofName_le) rest.length
    simp only [List.length_cons, Nat.succ_pos, forall_const]
    rw [mem_keys_insert, RowKey.int.injEq, eq_comm (a := RowKey.int maxInt64),
      eq_comm (a := maxInt64)]
    clear ih hstep
    grind

theorem appendsFresh_iff_hasRoom (pairs : List (String × Value)) :
    AppendsFresh pairs ↔ HasRoom pairs := by
  have hempty : RowKey.int maxInt64 ∉ (OrderedMap.empty : OrderedMap RowKey Value).keys :=
    List.not_mem_nil
  rw [appendsFresh_iff, max_notMem_iff tracks_empty, HasRoom]
  refine and_congr_left' ⟨fun h => ?_, fun h _ => ⟨hempty, by omega⟩⟩
  rcases Nat.eq_zero_or_pos pairs.length with hlen | hlen
  · rw [hlen]
    decide
  · have := (h hlen).2
    omega

def NamesKept (pairs : List (String × Value)) : Prop :=
  ∀ name ∈ pairs.map Prod.fst,
    (both .v7 pairs).get? (.ofName name) = (assoc pairs).get? (.ofName name)

/-- Only the largest integer can be lost as a name, namely to the last column. -/
theorem namesKept_iff (pairs : List (String × Value)) :
    NamesKept pairs ↔ ∀ v, (assoc pairs).get? (.int maxInt64) = some v →
      pairs.getLast?.map Prod.snd = some v := by
  have hboth : both .v7 pairs = appendFrom 0 .empty pairs := rfl
  have hmax (h : .int maxInt64 ∈ (assoc pairs).keys) :
      (both .v7 pairs).get? (.int maxInt64) = pairs.getLast?.map Prod.snd := by
    rw [hboth, get?_appendFrom_max tracks_empty (.inr h), get?_empty, Option.or_none]
  constructor
  · intro kept v hv
    have hkey := mem_keys_iff.2 ⟨v, hv⟩
    obtain ⟨name, hname, hmaxname⟩ := (mem_keys_assoc pairs).1 hkey
    rw [← hmax hkey, ← hmaxname, kept name hname, hmaxname, hv]
  · intro last name hname
    have hkey : .ofName name ∈ (assoc pairs).keys := (mem_keys_assoc pairs).2 ⟨name, hname, rfl⟩
    by_cases hmaxname : RowKey.ofName name = .int maxInt64
    · rw [hmaxname] at hkey ⊢
      obtain ⟨v, hv⟩ := mem_keys_iff.1 hkey
      rw [hmax hkey, hv, last v hv]
    · rw [hboth, get?_appendFrom tracks_empty hmaxname (.inr hkey), get?_empty, Option.or_none]

theorem HasRoom.max_notMem {pairs : List (String × Value)} (room : HasRoom pairs) :
    .int maxInt64 ∉ (assoc pairs).keys := by
  intro hkey
  obtain ⟨name, hname, hmaxname⟩ := (mem_keys_assoc pairs).1 hkey
  obtain ⟨p, hp, rfl⟩ := List.mem_map.1 hname
  obtain ⟨before, after, hsplit⟩ := List.append_of_mem hp
  have := room.2 before p after hsplit maxInt64 hmaxname
  omega

/-- For which rows no append overwrites an entry, and for which every name keeps its value: the
first is so where there is room for the positions, the second also where the column that is named
after the largest integer is followed by no other value. -/
theorem layOut_both_appended (stringify : Bool) (classes : ClassTable) (row : Row)
    (objects : ObjectStore) :
    let s : LayoutSettings := ⟨stringify, .v7, classes⟩
    ∃ byBoth byName : OrderedMap RowKey Value,
      layOut s row .both objects = .done (.ok (.map byBoth), objects) ∧
      layOut s row .assoc objects = .done (.ok (.map byName), objects) ∧
      (AppendsFresh (columnPairs s row) ↔ HasRoom (columnPairs s row)) ∧
      (HasRoom (columnPairs s row) → ∀ name ∈ (columnPairs s row).map Prod.fst,
        byBoth.get? (.ofName name) = byName.get? (.ofName name)) ∧
      ((∀ name ∈ (columnPairs s row).map Prod.fst,
        byBoth.get? (.ofName name) = byName.get? (.ofName name)) ↔
        ∀ v, byName.get? (.int maxInt64) = some v →
          (columnPairs s row).getLast?.map Prod.snd = some v) := by
  intro s
  refine ⟨both .v7 (columnPairs s row), assoc (columnPairs s row), rfl, rfl,
    appendsFresh_iff_hasRoom _, fun room => ?_, namesKept_iff _⟩
  refine (namesKept_iff _).2 fun v hv => ?_
  exact absurd (mem_keys_iff.2 ⟨v, hv⟩) room.max_notMem

/-- A column that is named after the largest integer loses its value to the column behind it. -/
theorem layOut_both_largest_name :
    let s : LayoutSettings := ⟨true, .v7, .standard⟩
    let row : Row := ⟨⟨["9223372036854775807", "a"], []⟩, [.text "1", .text "2"]⟩
    ¬AppendsFresh (columnPairs s row) ∧
    ∃ byBoth byName : OrderedMap RowKey Value,
      layOut s row .both .empty = .done (.ok (.map byBoth), .empty) ∧
      layOut s row .assoc .empty = .done (.ok (.map byName), .empty) ∧
      byBoth.get? (.ofName "9223372036854775807") = some (.text "2") ∧
      byName.get? (.ofName "9223372036854775807") = some (.text "1") := by
  intro s row
  refine ⟨fun fresh => ?_, _, _, rfl, rfl, by decide, by decide⟩
  have room := (appendsFresh_iff_hasRoom _).1 fresh
  exact absurd (room.2 [] _ _ rfl maxInt64 (by decide)) (by decide)

end SqlBridge.Layout
