import SqlBridge.Decimal.Integer
import Mathlib.Data.List.Basic
import Mathlib.Data.List.Induction

/-! # Canonical integers

A run of digits without a leading zero is the decimal form of the number that it
denotes. So text that is read as a canonical integer is what the printer writes
for that integer, and two different texts are never read as the same one. The
printer writes the usual decimal rendering, and all that it writes for integers
of 64 bits is read.
-/

namespace SqlBridge.Decimal

theorem toNat_of_isDigit {c : Char} (h : c.isDigit) : 48 ≤ c.toNat ∧ c.toNat ≤ 57 := by
  simp only [Char.isDigit, Bool.and_eq_true, decide_eq_true_eq] at h
  exact h

theorem digitValue_lt {c : Char} (h : c.isDigit) : digitValue c < 10 := by
  have hc := (toNat_of_isDigit h).2
  unfold digitValue
  omega

theorem digitChar_digitValue {c : Char} (h : c.isDigit) : digitChar (digitValue c) = c := by
  have hc := (toNat_of_isDigit h).1
  have hsum : 48 + (c.toNat - 48) = c.toNat := by omega
  rw [digitChar, digitValue, hsum, Char.ofNat_toNat]

theorem ofDigits_concat (cs : List Char) (c : Char) :
    ofDigits (cs ++ [c]) = 10 * ofDigits cs + digitValue c := by
  simp [ofDigits]

theorem digits_of_lt {n : Nat} (h : n < 10) : digits n = [digitChar n] := by
  rw [digits, if_pos h]

theorem digits_append {n d : Nat} (hn : 0 < n) (hd : d < 10) :
    digits (10 * n + d) = digits n ++ [digitChar d] := by
  have hdiv : (10 * n + d) / 10 = n := by omega
  have hmod : (10 * n + d) % 10 = d := by omega
  rw [digits, if_neg (by omega), hdiv, hmod]

theorem hasLeadingZero_append {cs : List Char} (h : hasLeadingZero cs) (ds : List Char) :
    hasLeadingZero (cs ++ ds) := by
  unfold hasLeadingZero at h
  split at h
  · rfl
  · cases h

/-- Digits without a leading zero are the decimal form of their number. -/
theorem digits_ofDigits {cs : List Char} (digit : ∀ c ∈ cs, c.isDigit) (nonempty : cs ≠ [])
    (canonical : hasLeadingZero cs = false) : digits (ofDigits cs) = cs := by
  induction cs using List.reverseRecOn with
  | nil => exact absurd rfl nonempty
  | append_singleton cs c ih =>
    have hc : c.isDigit := digit c (by simp)
    by_cases hcs : cs = []
    · subst hcs
      have hval : ofDigits ([] ++ [c]) = digitValue c := by simp [ofDigits]
      rw [hval, digits_of_lt (digitValue_lt hc), digitChar_digitValue hc, List.nil_append]
    · have hlead : hasLeadingZero cs = false := by
        by_contra hz
        rw [hasLeadingZero_append (by simpa using hz) [c]] at canonical
        cases canonical
      have hdigits := ih (fun d hd => digit d (by simp [hd])) hcs hlead
      have hpos : 0 < ofDigits cs := by
        by_contra hz
        -- a number that is zero is written as one zero, which would lead here
        rw [show ofDigits cs = 0 by omega, digits_of_lt (by omega)] at hdigits
        rw [← hdigits] at canonical
        cases canonical
      rw [ofDigits_concat, digits_append hpos (digitValue_lt hc), hdigits,
        digitChar_digitValue hc]

theorem isDigits_iff {cs : List Char} : isDigits cs = true ↔ cs ≠ [] ∧ ∀ c ∈ cs, c.isDigit := by
  simp [isDigits]

theorem inInt64_eq_some {i n : Int} (h : inInt64 i = some n) :
    n = i ∧ minInt64 ≤ n ∧ n ≤ maxInt64 := by
  unfold inInt64 at h
  split at h
  · rename_i hi
    obtain rfl := Option.some.inj h
    exact ⟨rfl, hi⟩
  · cases h

theorem eq_intDigits_of_readCanonicalInt {cs : List Char} {n : Int}
    (h : readCanonicalInt cs = some n) : cs = intDigits n := by
  unfold readCanonicalInt at h
  split at h
  · rename_i cs
    split at h
    · rename_i hcs
      simp only [Bool.and_eq_true, Bool.not_eq_true', bne_iff_ne, ne_eq] at hcs
      obtain ⟨hd, hall⟩ := isDigits_iff.1 hcs.1.1
      have hdigits := digits_ofDigits hall hd hcs.1.2
      have hpos : ofDigits cs ≠ 0 := by
        intro hz
        rw [hz, digits_of_lt (by omega)] at hdigits
        exact hcs.2 hdigits.symm
      obtain ⟨rfl, -⟩ := inInt64_eq_some h
      rw [intDigits, if_pos (by omega), Int.natAbs_neg, Int.natAbs_natCast, hdigits]
    · cases h
  · split at h
    · rename_i hcs
      simp only [Bool.and_eq_true, Bool.not_eq_true'] at hcs
      obtain ⟨hd, hall⟩ := isDigits_iff.1 hcs.1
      obtain ⟨rfl, -⟩ := inInt64_eq_some h
      rw [intDigits, if_neg (by omega), Int.natAbs_natCast, digits_ofDigits hall hd hcs.2]
    · cases h

theorem readCanonicalInt_range {cs : List Char} {n : Int} (h : readCanonicalInt cs = some n) :
    minInt64 ≤ n ∧ n ≤ maxInt64 := by
  unfold readCanonicalInt at h
  split at h <;> split at h
  all_goals first | exact (inInt64_eq_some h).2 | cases h

/-! ## What the printer writes -/

theorem isDigit_digitChar {d : Nat} (small : d < 10) : (digitChar d).isDigit := by
  decide +revert

theorem digitValue_digitChar {d : Nat} (small : d < 10) : digitValue (digitChar d) = d := by
  decide +revert

theorem digitChar_ne_zero {d : Nat} (small : d < 10) (positive : 0 < d) : digitChar d ≠ '0' := by
  decide +revert

/-- The digits of a number are digits, denote it and start with a zero only if it is zero. -/
theorem digits_spec (n : Nat) :
    (∀ c ∈ digits n, c.isDigit) ∧ digits n ≠ [] ∧ ofDigits (digits n) = n ∧
      (0 < n → (digits n).head? ≠ some '0') := by
  induction n using digits.induct with
  | case1 n small =>
    rw [digits_of_lt small]
    refine ⟨by simpa using isDigit_digitChar small, by simp, ?_, fun positive => ?_⟩
    · simp [ofDigits, digitValue_digitChar small]
    · simpa using digitChar_ne_zero small positive
  | case2 n large ih =>
    obtain ⟨digit, nonempty, value, lead⟩ := ih
    have small : n % 10 < 10 := Nat.mod_lt n (by decide)
    rw [digits, if_neg large]
    refine ⟨?_, by simp, ?_, fun _ => ?_⟩
    · simp only [List.mem_append, List.mem_singleton]
      rintro c (earlier | rfl)
      · exact digit c earlier
      · exact isDigit_digitChar small
    · rw [ofDigits_concat, value, digitValue_digitChar small]
      omega
    · rw [List.head?_append_of_ne_nil _ nonempty]
      exact lead (by omega)

theorem hasLeadingZero_of_head? {cs : List Char} (lead : cs.head? ≠ some '0') :
    hasLeadingZero cs = false := by
  rw [hasLeadingZero.eq_def]
  split
  · exact absurd rfl lead
  · rfl

theorem hasLeadingZero_digits (n : Nat) : hasLeadingZero (digits n) = false := by
  obtain zero | positive := n.eq_zero_or_pos
  · rw [zero, digits_of_lt (by decide)]
    rfl
  · exact hasLeadingZero_of_head? ((digits_spec n).2.2.2 positive)

theorem digitChar_eq {d : Nat} (small : d < 10) : digitChar d = d.digitChar := by
  decide +revert

theorem digits_eq_toDigits (n : Nat) : digits n = Nat.toDigits 10 n := by
  induction n using digits.induct with
  | case1 n small =>
    rw [digits_of_lt small, Nat.toDigits_of_lt_base small, digitChar_eq small]
  | case2 n large ih =>
    have split : Nat.toDigits 10 n = Nat.toDigits 10 (n / 10) ++ [(n % 10).digitChar] :=
      Nat.toDigits_of_base_le (by decide) (by omega)
    rw [digits, if_neg large, ih, digitChar_eq (Nat.mod_lt n (by decide)), split]

theorem intText_eq_toString (i : Int) : intText i = toString i := by
  apply String.toList_injective
  rw [intText, String.toList_ofList, Int.toString_eq_repr]
  cases i with
  | ofNat n =>
    have written : (Int.ofNat n).repr = n.repr := rfl
    rw [written, Nat.toList_repr, intDigits, if_neg (by simp)]
    exact digits_eq_toDigits n
  | negSucc n =>
    have written : (Int.negSucc n).repr = "-" ++ (n + 1).repr := rfl
    rw [written, String.toList_append, Nat.toList_repr, intDigits, if_pos (by omega),
      digits_eq_toDigits]
    rfl

theorem isDigits_digits (n : Nat) : isDigits (digits n) = true :=
  isDigits_iff.mpr ⟨(digits_spec n).2.1, (digits_spec n).1⟩

theorem readCanonicalInt_intDigits {i : Int} (low : minInt64 ≤ i) (high : i ≤ maxInt64) :
    readCanonicalInt (intDigits i) = some i := by
  have read := (digits_spec i.natAbs).2.2.1
  have inRange : inInt64 i = some i := by rw [inInt64, if_pos ⟨low, high⟩]
  rw [intDigits]
  split
  · rename_i negative
    have nonzero : digits i.natAbs ≠ ['0'] := fun zero =>
      (digits_spec i.natAbs).2.2.2 (by omega) (by rw [zero]; rfl)
    have value : -(ofDigits (digits i.natAbs) : Int) = i := by omega
    rw [readCanonicalInt, isDigits_digits, hasLeadingZero_digits, value, inRange]
    simp [nonzero]
  · have value : (ofDigits (digits i.natAbs) : Int) = i := by omega
    rw [readCanonicalInt.eq_def]
    split
    · rename_i cs signed
      have digit := (digits_spec i.natAbs).1 '-' (by rw [signed]; simp)
      exact absurd digit (by decide)
    · rw [isDigits_digits, hasLeadingZero_digits, value, inRange]
      rfl

/-- The canonical reader accepts exactly what the printer writes for integers of 64 bits. -/
theorem readCanonicalInt_eq_some_iff {cs : List Char} {i : Int} :
    readCanonicalInt cs = some i ↔ (minInt64 ≤ i ∧ i ≤ maxInt64) ∧ cs = intDigits i := by
  constructor
  · exact fun read => ⟨readCanonicalInt_range read, eq_intDigits_of_readCanonicalInt read⟩
  · rintro ⟨⟨low, high⟩, rfl⟩
    exact readCanonicalInt_intDigits low high

end SqlBridge.Decimal
