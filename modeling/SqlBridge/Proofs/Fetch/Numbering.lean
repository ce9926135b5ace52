import SqlBridge.Proofs.Fetch.Appended
import Mathlib.Order.Bounds.Defs

/-! # The numbers of appended positions

Where positions are appended, a column is numbered by the first integer beyond
all that came before it: the integers among the names up to its own, the numbers
of the columns on its left, and minus one. As long as the names leave enough
integers above them, the map of the row is what is left of writing each column
under its name and then under its number.
-/

namespace SqlBridge.Layout
open OrderedMap Decimal

/-! ## Numbering -/

/-- The first integer from `free` on that is beyond a key. -/
def beyond (free : Int) : RowKey → Int
  | .int n => max free (n + 1)
  | .name _ => free

/-- The numbers of columns with these names, if the first integer to be used is `free`. -/
def numbersFrom (free : Int) : List String → List Int
  | [] => []
  | name :: rest => beyond free (.ofName name) :: numbersFrom (beyond free (.ofName name) + 1) rest

/-- What the number of column `j` has to be beyond: `low`, the integers among the names up to its own, and
the numbers of the columns before it. -/
def passed (low : Int) (names : List String) (numbers : List Int) (j : Nat) : Set Int :=
  {n | n = low ∨ (∃ i ≤ j, names[i]?.map RowKey.ofName = some (.int n)) ∨
    ∃ i < j, numbers[i]? = some n}

variable {free : Int} {names : List String} {numbers : List Int}

theorem length_numbersFrom (free : Int) (names : List String) :
    (numbersFrom free names).length = names.length := by
  induction names generalizing free with
  | nil => rfl
  | cons name rest ih => rw [numbersFrom, List.length_cons, List.length_cons, ih]

theorem le_beyond (free : Int) (key : RowKey) : free ≤ beyond free key := by
  cases key with
  | int n => exact Int.le_max_left _ _
  | name s => exact Int.le_refl _

theorem lt_beyond {key : RowKey} {n : Int} (isInt : key = .int n) (free : Int) :
    n < beyond free key := by
  subst isInt
  exact Int.lt_of_add_one_le (Int.le_max_right _ _)

theorem beyond_reached (free : Int) (key : RowKey) :
    beyond free key - 1 = free - 1 ∨ key = .int (beyond free key - 1) := by
  cases key with
  | int n =>
    rw [beyond, RowKey.int.injEq]
    omega
  | name s => exact .inl rfl

theorem le_numbersFrom {n : Int} (used : n ∈ numbersFrom free names) : free ≤ n := by
  induction names generalizing free with
  | nil => cases used
  | cons name rest ih =>
    have first := le_beyond free (.ofName name)
    rcases List.mem_cons.mp used with rfl | later
    · exact first
    · have := ih later
      omega

/-- What a later column has to pass, seen from the first of the columns. -/
theorem passed_succ {name : String} {rest : List String} {first n : Int} {j : Nat} :
    n ∈ passed (free - 1) (name :: rest) (first :: numbers) (j + 1) ↔
      n = free - 1 ∨ .ofName name = RowKey.int n ∨ n = first ∨
        (∃ i ≤ j, rest[i]?.map RowKey.ofName = some (.int n)) ∨ ∃ i < j, numbers[i]? = some n := by
  constructor
  · rintro (low | ⟨i, le, name⟩ | ⟨i, lt, number⟩)
    · exact .inl low
    · cases i with
      | zero => exact .inr (.inl (by simpa using name))
      | succ i => exact .inr (.inr (.inr (.inl ⟨i, by omega, name⟩)))
    · cases i with
      | zero => exact .inr (.inr (.inl (by simpa [eq_comm] using number)))
      | succ i => exact .inr (.inr (.inr (.inr ⟨i, by omega, number⟩)))
  · rintro (low | name | rfl | ⟨i, le, name⟩ | ⟨i, lt, number⟩)
    · exact .inl low
    · exact .inr (.inl ⟨0, by omega, by simpa using name⟩)
    · exact .inr (.inr ⟨0, by omega, rfl⟩)
    · exact .inr (.inl ⟨i + 1, by omega, name⟩)
    · exact .inr (.inr ⟨i + 1, by omega, number⟩)

/-- Every number is the next integer after the largest that has to be passed. -/
theorem numbersFrom_greatest {j : Nat} {n : Int} (number : (numbersFrom free names)[j]? = some n) :
    IsGreatest (passed (free - 1) names (numbersFrom free names) j) (n - 1) := by
  induction names generalizing free j with
  | nil => cases number
  | cons name rest ih =>
    have first := le_beyond free (.ofName name)
    cases j with
    | zero =>
      obtain rfl : beyond free (.ofName name) = n := by simpa [numbersFrom] using number
      constructor
      · rcases beyond_reached free (.ofName name) with low | isInt
        · exact .inl low
        · exact .inr (.inl ⟨0, Nat.le_refl 0, by simpa using isInt⟩)
      · rintro k (low | ⟨i, le, name⟩ | ⟨i, lt, -⟩)
        · omega
        · obtain rfl := Nat.le_zero.mp le
          have := lt_beyond (Option.some.inj name) free
          omega
        · omega
    | succ j =>
      have number' : (numbersFrom (beyond free (.ofName name) + 1) rest)[j]? = some n := number
      obtain ⟨reached, largest⟩ := ih number'
      have past : beyond free (.ofName name) ≤ n - 1 := largest (.inl (by omega))
      constructor
      · rw [numbersFrom, passed_succ]
        rcases reached with low | later
        · exact .inr (.inr (.inl (by omega)))
        · exact .inr (.inr (.inr later))
      · intro k earlier
        rw [numbersFrom, passed_succ] at earlier
        rcases earlier with low | isInt | rfl | later
        · omega
        · have := lt_beyond isInt free
          omega
        · exact past
        · exact largest (.inr later)

/-! ## What is written -/

/-- The columns as they are written: each under its name and then under its number. -/
def writesFrom (free : Int) : List (String × Value) → List (RowKey × Value)
  | [] => []
  | (name, v) :: rest =>
    (.ofName name, v) :: (.int (beyond free (.ofName name)), v) ::
      writesFrom (beyond free (.ofName name) + 1) rest

def numberedArrivals (names : List String) (numbers : List Int) : List RowKey :=
  (names.zip numbers).flatMap fun p => [.ofName p.1, .int p.2]

variable {m : OrderedMap RowKey Value} {pairs : List (String × Value)}

theorem keys_writesFrom (free : Int) (pairs : List (String × Value)) :
    (writesFrom free pairs).map Prod.fst =
      numberedArrivals (pairs.map Prod.fst) (numbersFrom free (pairs.map Prod.fst)) := by
  induction pairs generalizing free with
  | nil => rfl
  | cons p rest ih =>
    rw [writesFrom, List.map_cons, List.map_cons, ih]
    rfl

theorem mem_numberedArrivals {k : RowKey} (arrived : k ∈ numberedArrivals names numbers) :
    (∃ name ∈ names, .ofName name = k) ∨ ∃ n ∈ numbers, k = .int n := by
  obtain ⟨⟨name, n⟩, both, arrived⟩ := List.mem_flatMap.mp arrived
  obtain ⟨isName, isNumber⟩ := List.of_mem_zip both
  rcases List.mem_pair.mp arrived with rfl | rfl
  · exact .inl ⟨name, isName, rfl⟩
  · exact .inr ⟨n, isNumber, rfl⟩

/-- While there is room, the counter never reaches the end of the integers. -/
theorem appendFrom_eq_insertAll (room : free + pairs.length ≤ maxInt64 + 1)
    (above : ∀ p ∈ pairs, ∀ n, .ofName p.1 = RowKey.int n → n + pairs.length ≤ maxInt64) :
    appendFrom free m pairs = m.insertAll (writesFrom free pairs) := by
  induction pairs generalizing free m with
  | nil => rfl
  | cons p rest ih =>
    obtain ⟨name, v⟩ := p
    rw [List.length_cons] at room above
    have next : freeAfter free (.ofName name) = beyond free (.ofName name) ∧
        beyond free (.ofName name) + rest.length ≤ maxInt64 := by
      cases key : RowKey.ofName name with
      | int n =>
        have := above (name, v) (by simp) n key
        simp only [freeAfter, beyond, nextKey]
        omega
      | name s =>
        exact ⟨rfl, by simp only [beyond]; omega⟩
    rw [appendFrom, writesFrom, next.1]
    cases rest with
    | nil => rfl
    | cons q rest =>
      have unbounded : nextKey (beyond free (.ofName name)) = beyond free (.ofName name) + 1 := by
        have := next.2
        rw [List.length_cons] at this
        rw [nextKey]
        omega
      rw [unbounded, ih (by omega) fun p later n isInt => ?_]
      · rfl
      · have := above p (List.mem_cons_of_mem _ later) n isInt
        omega

/-- A number that is no name holds the value of its column. -/
theorem get?_writesFrom {j : Nat} {n : Int} {p : String × Value}
    (number : (numbersFrom free (pairs.map Prod.fst))[j]? = some n) (column : pairs[j]? = some p)
    (noName : ∀ p ∈ pairs, .ofName p.1 ≠ RowKey.int n) :
    (m.insertAll (writesFrom free pairs)).get? (.int n) = some p.2 := by
  induction pairs generalizing free m j with
  | nil => cases column
  | cons q rest ih =>
    obtain ⟨name, v⟩ := q
    have noName' : ∀ p ∈ rest, .ofName p.1 ≠ RowKey.int n := fun p later =>
      noName p (List.mem_cons_of_mem _ later)
    have written : m.insertAll (writesFrom free ((name, v) :: rest)) =
        ((m.insert (.ofName name) v).insert (.int (beyond free (.ofName name))) v).insertAll
          (writesFrom (beyond free (.ofName name) + 1) rest) := rfl
    rw [written]
    cases j with
    | zero =>
      obtain rfl : (name, v) = p := by simpa using column
      obtain rfl : beyond free (.ofName name) = n := by simpa [numbersFrom] using number
      rw [get?_insertAll_of_notMem, get?_insert, if_pos rfl]
      rw [keys_writesFrom]
      intro again
      rcases mem_numberedArrivals again with ⟨name', isName, same⟩ | ⟨n, later, same⟩
      · obtain ⟨p, there, rfl⟩ := List.mem_map.mp isName
        exact noName' p there same
      · -- the numbers of the columns behind this one are larger
        have larger := le_numbersFrom later
        obtain rfl := RowKey.int.inj same
        omega
    | succ j => exact ih number column noName'

/-! ## The map of a row -/

theorem lt_of_passed {j : Nat} {n k : Int} (number : (numbersFrom free names)[j]? = some n)
    (earlier : k ∈ passed (free - 1) names (numbersFrom free names) j) : k < n := by
  have := (numbersFrom_greatest number).2 earlier
  omega

theorem numbersFrom_increasing (free : Int) (names : List String) :
    (numbersFrom free names).Pairwise (· < ·) := by
  rw [List.pairwise_iff_getElem]
  intro i j hi hj lt
  exact lt_of_passed (List.getElem?_eq_getElem hj)
    (.inr (.inr ⟨i, lt, List.getElem?_eq_getElem hi⟩))

/-- The positions are integers of 64 bits, and the names leave as many integers above them as there are
columns. -/
structure LeavesRoom (pairs : List (String × Value)) : Prop where
  fits : (pairs.length : Int) ≤ maxInt64 + 1
  above : ∀ p ∈ pairs, ∀ n, .ofName p.1 = RowKey.int n → n + pairs.length ≤ maxInt64

namespace LeavesRoom

theorem hasRoom (leaves : LeavesRoom pairs) : HasRoom pairs := by
  refine ⟨leaves.fits, ?_⟩
  rintro before p after rfl n isInt
  have := leaves.above p (by simp) n isInt
  rw [List.length_append, List.length_cons] at this
  omega

theorem both_eq (leaves : LeavesRoom pairs) :
    both .v7 pairs = OrderedMap.empty.insertAll (writesFrom 0 pairs) :=
  appendFrom_eq_insertAll (by have := leaves.fits; omega) leaves.above

theorem keys_both (leaves : LeavesRoom pairs) :
    (both .v7 pairs).keys =
      (numberedArrivals (pairs.map Prod.fst) (numbersFrom 0 (pairs.map Prod.fst))).eraseDups := by
  rw [leaves.both_eq, keys_insertAll, keys_writesFrom]
  rfl

theorem namesKept (leaves : LeavesRoom pairs) : NamesKept pairs :=
  (namesKept_iff pairs).mpr fun _ largest =>
    absurd (mem_keys_iff.mpr ⟨_, largest⟩) leaves.hasRoom.max_notMem

end LeavesRoom

/-- Take a row whose positions are integers of 64 bits and whose names leave as many integers above
them as there are columns. The number of a column is one more than the largest among minus one, the integers
among the names up to its own and the numbers before it; so the numbers increase from zero on, and none
is an integer that an earlier column has as its name. The keys stand in the order in which names and numbers
arrive. A name holds the value of its last column, whether or not it has been a number before; any
other number holds the value of its column. -/
theorem layOut_both_numbered (stringify : Bool) (classes : ClassTable) (row : Row)
    (objects : ObjectStore) (rect : row.columns.count = row.size)
    (fits : (row.size : Int) ≤ maxInt64 + 1)
    (room : ∀ name ∈ row.columns.names, ∀ n : Int, .ofName name = RowKey.int n →
      n ≤ maxInt64 - row.size) :
    let names := row.columns.names
    let numbers := numbersFrom 0 names
    ∃ byBoth : OrderedMap RowKey Value,
      layOut ⟨stringify, .v7, classes⟩ row .both objects = .done (.ok (.map byBoth), objects) ∧
      numbers.length = row.size ∧
      (∀ (j : Nat) n, numbers[j]? = some n → IsGreatest (passed (-1) names numbers j) (n - 1)) ∧
      numbers.Pairwise (· < ·) ∧
      (∀ n ∈ numbers, 0 ≤ n) ∧
      (∀ (i j : Nat) name n, i ≤ j → names[i]? = some name → numbers[j]? = some n →
        .ofName name ≠ RowKey.int n) ∧
      byBoth.keys = (numberedArrivals names numbers).eraseDups ∧
      (∀ (j : Nat) name v, names[j]? = some name → row.values[j]? = some v →
        name ∉ names.drop (j + 1) → byBoth.get? (.ofName name) = some v.stringify) ∧
      ∀ (j : Nat) n v, numbers[j]? = some n → row.values[j]? = some v →
        (∀ name ∈ names, .ofName name ≠ RowKey.int n) →
        byBoth.get? (.int n) = some v.stringify := by
  intro names numbers
  let s : LayoutSettings := ⟨stringify, .v7, classes⟩
  let pairs := columnPairs s row
  have forced : s.stringifies = true := Bool.or_true _
  have presented (v : Value) : present s.stringifies v = v.stringify := by rw [forced]; rfl
  have named : pairs.map Prod.fst = names := columnPairs_names s row rect
  have size : pairs.length = row.size := by
    rw [← rect, Columns.count, ← List.length_map, named]
  have isName {p : String × Value} (there : p ∈ pairs) : p.1 ∈ names := by
    rw [← named]
    exact List.mem_map_of_mem there
  have leaves : LeavesRoom pairs := by
    refine ⟨by omega, fun p there n isInt => ?_⟩
    have := room p.1 (isName there) n isInt
    omega
  refine ⟨both .v7 pairs, rfl, ?_, fun j n => numbersFrom_greatest, numbersFrom_increasing 0 names,
    fun n => le_numbersFrom, fun i j name n le atName number isInt => ?_, ?_,
    fun j name v atName atValue last => ?_, fun j n v number atValue noName => ?_⟩
  · exact (length_numbersFrom 0 names).trans rect
  · have := lt_of_passed number (.inr (.inl ⟨i, le, by rw [atName, Option.map_some, isInt]⟩))
    omega
  · rw [leaves.keys_both, named]
  · obtain ⟨before, after, split, -, behind⟩ := columnPairs_split s row rect atName atValue
    have isColumn : name ∈ pairs.map Prod.fst := named ▸ List.mem_of_getElem? atName
    rw [leaves.namesKept name isColumn, ← presented v]
    change (assoc (columnPairs s row)).get? _ = _
    rw [split]
    exact get?_assoc_last (behind ▸ last)
  · obtain ⟨name, atName⟩ : ∃ name, names[j]? = some name := by
      have lt := (List.getElem?_eq_some_iff.mp atValue).1
      exact ⟨_, List.getElem?_eq_getElem (Nat.lt_of_lt_of_eq lt rect.symm)⟩
    have column := columnPairs_getElem? s row atName atValue
    rw [presented] at column
    rw [leaves.both_eq]
    exact get?_writesFrom (by rw [named]; exact number) column fun p there =>
      noName p.1 (isName there)

/-- The name of the fourth column is the number of the second: the name takes the entry over. -/
theorem layOut_both_numbered_overwritten :
    let row : Row := ⟨⟨["2", "a", "-7", "4", "a"], []⟩,
      [.text "v", .text "w", .text "x", .text "y", .bool true]⟩
    row.columns.count = row.size ∧ (row.size : Int) ≤ maxInt64 + 1 ∧
      (∀ name ∈ row.columns.names, ∀ n : Int, .ofName name = RowKey.int n →
        n ≤ maxInt64 - row.size) ∧
      ∃ byBoth : OrderedMap RowKey Value,
        layOut ⟨false, .v7, .standard⟩ row .both .empty = .done (.ok (.map byBoth), .empty) ∧
        byBoth.keys = [.int 2, .int 3, .name "a", .int 4, .int (-7), .int 5, .int 6, .int 7] ∧
        byBoth.get? (.int 4) = some (.text "y") ∧ byBoth.get? (.int 7) = some (.text "1") := by
  intro row
  have rect : row.columns.count = row.size := rfl
  have fits : (row.size : Int) ≤ maxInt64 + 1 := by decide
  have room : ∀ name ∈ row.columns.names, ∀ n : Int, .ofName name = RowKey.int n →
      n ≤ maxInt64 - row.size := by
    intro name there n isInt
    have small : ∀ name ∈ row.columns.names, freeAfter 0 (.ofName name) ≤ 5 := by decide
    have := small name there
    rw [isInt, freeAfter, nextKey] at this
    have size : row.size = 5 := rfl
    rw [maxInt64] at *
    omega
  obtain ⟨byBoth, laidOut, -, -, -, -, -, keys, ofName, ofNumber⟩ :=
    layOut_both_numbered false .standard row .empty rect fits room
  refine ⟨rect, fits, room, byBoth, laidOut, keys.trans (by decide), ?_, ?_⟩
  · exact ofName 3 "4" (.text "y") rfl rfl (by decide)
  · exact ofNumber 4 7 (.bool true) (by decide) rfl (by decide)

end SqlBridge.Layout
