import SqlBridge.Proofs.Fetch.Assoc

/-! # Keys made from names

A name is an integer key exactly if it is the decimal rendering of an integer of
64 bits, and is itself its key otherwise. Showing the key gives the name back, so
no two names share a key, and no text that is left as a name can be mistaken for
an integer key that is shown.
-/

namespace SqlBridge

namespace Decimal

theorem int64_range (n : Int64) : minInt64 ≤ n.toInt ∧ n.toInt ≤ maxInt64 := by
  have low := n.le_toInt
  have high := n.toInt_lt
  rw [minInt64, maxInt64]
  omega

theorem exists_int64 {i : Int} (low : minInt64 ≤ i) (high : i ≤ maxInt64) :
    ∃ n : Int64, n.toInt = i := by
  rw [minInt64] at low
  rw [maxInt64] at high
  exact ⟨Int64.ofInt i, Int64.toInt_ofInt_of_le (by omega) (by omega)⟩

end Decimal

namespace RowKey
open Decimal

theorem ofName_eq_int_iff {s : String} {i : Int} :
    ofName s = .int i ↔ readCanonicalInt s.toList = some i := by
  unfold ofName
  split
  · rename_i n read
    rw [read, int.injEq, Option.some.injEq]
  · rename_i unread
    simp [unread]

theorem ofName_eq_name_iff {s t : String} :
    ofName s = .name t ↔ t = s ∧ readCanonicalInt s.toList = none := by
  unfold ofName
  split
  · rename_i n read
    simp [read]
  · rename_i unread
    simp [unread, eq_comm]

theorem text_int (n : Int64) : (int n.toInt).text = toString n :=
  intText_eq_toString n.toInt

theorem readCanonicalInt_iff_toString {s : String} {i : Int} :
    readCanonicalInt s.toList = some i ↔ ∃ n : Int64, i = n.toInt ∧ s = toString n := by
  rw [readCanonicalInt_eq_some_iff]
  constructor
  · rintro ⟨⟨low, high⟩, written⟩
    obtain ⟨n, rfl⟩ := exists_int64 low high
    refine ⟨n, rfl, ?_⟩
    rw [← text_int, text, intText, ← written, String.ofList_toList]
  · rintro ⟨n, rfl, rfl⟩
    refine ⟨int64_range n, ?_⟩
    rw [← text_int, text, intText, String.toList_ofList]

/-- Take any name. Its key is an integer exactly if the name is the decimal rendering of an integer
of 64 bits, and is the name itself if it is not. Showing the key gives the name back, no other name has the
same key, and a name that is kept as text shows like no integer key. -/
theorem ofName_canonical (s : String) :
    (∀ i : Int, ofName s = .int i ↔ ∃ n : Int64, i = n.toInt ∧ s = toString n) ∧
      (∀ t, ofName s = .name t ↔ t = s ∧ ∀ n : Int64, s ≠ toString n) ∧
      (ofName s).text = s ∧
      (∀ t, ofName t = ofName s ↔ t = s) ∧
      ∀ t, ofName s = .name t → ∀ n : Int64, t ≠ (int n.toInt).text := by
  have unread : readCanonicalInt s.toList = none ↔ ∀ n : Int64, s ≠ toString n := by
    rw [Option.eq_none_iff_forall_ne_some]
    simp only [ne_eq, readCanonicalInt_iff_toString, not_exists, not_and]
    exact ⟨fun none n => none n.toInt n rfl, fun none _ n _ => none n⟩
  have byName (t : String) : ofName s = .name t ↔ t = s ∧ ∀ n : Int64, s ≠ toString n := by
    rw [ofName_eq_name_iff, unread]
  refine ⟨fun i => ?_, byName, text_ofName s, fun t => ⟨ofName_injective, congrArg ofName⟩, ?_⟩
  · rw [ofName_eq_int_iff, readCanonicalInt_iff_toString]
  · intro t kept n
    obtain ⟨rfl, other⟩ := (byName t).mp kept
    rw [text_int]
    exact other n

/-- The range is that of 64 bits, and signs and zeros count as the printer writes them. -/
example : ofName "-9223372036854775808" = .int minInt64 ∧ ofName "9223372036854775807" = .int maxInt64 ∧
    ["-9223372036854775809", "9223372036854775808", "007", "+7", "-0", "-", " 7", "٧"].map ofName =
      ["-9223372036854775809", "9223372036854775808", "007", "+7", "-0", "-", " 7", "٧"].map name := by
  decide

end RowKey
end SqlBridge
