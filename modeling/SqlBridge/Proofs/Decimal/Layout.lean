import SqlBridge.Proofs.Decimal.Canonical
import SqlBridge.Proofs.Decimal.Rounding
import Mathlib.Data.List.TakeWhile

/-! # Numerals

A number is written in place, with a point only before digits of which the last is
not a zero, or as one digit, a point, more digits and an exponent. Both kinds of
numeral say what they denote by themselves. The layout of significant digits is a
numeral of the kind that its exponent asks for, and denotes the number that the
digits stand for.
-/

namespace SqlBridge.Decimal

/-! ## What numerals denote -/

/-- The number that digits before and after a point denote. -/
def pointValue (whole fraction : List Char) : ℚ :=
  ofDigits whole + ofDigits fraction / 10 ^ fraction.length

/-- A numeral without an exponent, and the number that it denotes. There is a point only if digits follow
it, the last of which is not a zero. -/
inductive InPlace (text : List Char) (d : ℚ) : Prop where
  | whole (digits : isDigits text) (lead : hasLeadingZero text = false) (value : d = ofDigits text)
  | point (before fraction : List Char) (written : text = before ++ '.' :: fraction)
      (digits : isDigits before) (lead : hasLeadingZero before = false)
      (more : isDigits fraction) (last : fraction.getLast? ≠ some '0')
      (value : d = pointValue before fraction)

/-- A numeral with an exponent, and the number that it denotes. One digit that is not a zero stands before
the point. Of the digits after the point the last is not a zero, unless it is the only one. -/
inductive WithExponent (text : List Char) (d : ℚ) (e : Int) : Prop where
  | intro (first : Char) (fraction exponent : List Char)
      (written : text =
        first :: '.' :: fraction ++ 'E' :: (if e < 0 then '-' else '+') :: exponent)
      (digit : first.isDigit) (lead : first ≠ '0')
      (more : isDigits fraction) (last : fraction = ['0'] ∨ fraction.getLast? ≠ some '0')
      (digits : isDigits exponent) (shortest : hasLeadingZero exponent = false)
      (power : ofDigits exponent = e.natAbs)
      (value : d = pointValue [first] fraction * 10 ^ e)

theorem InPlace.mem {text : List Char} {d : ℚ} (inPlace : InPlace text d) {c : Char}
    (there : c ∈ text) : c.isDigit ∨ c = '.' := by
  cases inPlace with
  | whole digits => exact .inl ((isDigits_iff.mp digits).2 c there)
  | point before fraction written digits _ more =>
    simp only [written, List.mem_append, List.mem_cons] at there
    rcases there with there | rfl | there
    · exact .inl ((isDigits_iff.mp digits).2 c there)
    · exact .inr rfl
    · exact .inl ((isDigits_iff.mp more).2 c there)

/-- A numeral is of one kind only: the letter of the exponent tells them apart. -/
theorem WithExponent.not_inPlace {text : List Char} {d d' : ℚ} {e : Int}
    (withExponent : WithExponent text d e) : ¬ InPlace text d' := by
  intro inPlace
  obtain ⟨first, fraction, exponent, rfl, -⟩ := withExponent
  have letter := inPlace.mem (c := 'E') (by simp)
  exact absurd letter (by decide)

theorem InPlace.head_isDigit {text : List Char} {d : ℚ} (inPlace : InPlace text d) :
    ∃ c rest, text = c :: rest ∧ c.isDigit := by
  have first {ds : List Char} (digits : isDigits ds) : ∃ c rest, ds = c :: rest ∧ c.isDigit := by
    obtain ⟨nonempty, digit⟩ := isDigits_iff.mp digits
    obtain ⟨c, rest, rfl⟩ := List.exists_cons_of_ne_nil nonempty
    exact ⟨c, rest, rfl, digit c List.mem_cons_self⟩
  cases inPlace with
  | whole digits => exact first digits
  | point before fraction written digits =>
    obtain ⟨c, rest, rfl, digit⟩ := first digits
    exact ⟨c, _, written, digit⟩

theorem WithExponent.head_isDigit {text : List Char} {d : ℚ} {e : Int}
    (withExponent : WithExponent text d e) : ∃ c rest, text = c :: rest ∧ c.isDigit := by
  obtain ⟨first, fraction, exponent, rfl, digit⟩ := withExponent
  exact ⟨first, _, rfl, digit⟩

/-! ## Digits -/

theorem ofDigits_append (as bs : List Char) :
    ofDigits (as ++ bs) = ofDigits as * 10 ^ bs.length + ofDigits bs := by
  induction bs using List.reverseRecOn with
  | nil => simp [ofDigits]
  | append_singleton bs b ih =>
    rw [← List.append_assoc, ofDigits_concat, ofDigits_concat, ih, List.length_append,
      List.length_singleton, Nat.pow_succ]
    ring

theorem ofDigits_zeros (k : Nat) : ofDigits (List.replicate k '0') = 0 := by
  induction k with
  | zero => rfl
  | succ k ih => rw [List.replicate_succ', ofDigits_concat, ih]; rfl

theorem length_digits {n : Nat} (positive : 0 < n) : (digits n).length = length n := by
  induction n using digits.induct with
  | case1 n small =>
    have zero : n / 10 = 0 := Nat.div_eq_of_lt small
    rw [digits_of_lt small, length, if_neg positive.ne', zero, length]
    rfl
  | case2 n large ih =>
    rw [digits, if_neg large, length, if_neg positive.ne', List.length_append, ih (by omega)]
    rfl

/-- Only zeros are dropped, and all of them that stand last. -/
theorem dropTrailingZeros_spec (cs : List Char) :
    (∃ k, cs = dropTrailingZeros cs ++ List.replicate k '0') ∧
      (dropTrailingZeros cs).getLast? ≠ some '0' := by
  constructor
  · refine ⟨(cs.reverse.takeWhile (· == '0')).length, ?_⟩
    have zeros : cs.reverse.takeWhile (· == '0') =
        List.replicate (cs.reverse.takeWhile (· == '0')).length '0' := by
      refine List.eq_replicate_of_mem fun c dropped => ?_
      simpa using List.mem_takeWhile_imp dropped
    rw [← List.reverse_replicate, ← zeros, dropTrailingZeros, ← List.reverse_append,
      List.takeWhile_append_dropWhile, List.reverse_reverse]
  · rw [dropTrailingZeros, List.getLast?_reverse]
    intro zero
    have := List.head?_dropWhile_not (· == '0') cs.reverse
    rw [zero] at this
    simp at this

/-! ## Significant digits -/

structure Trimmed (ds : List Char) : Prop where
  nonempty : ds ≠ []
  digit : ∀ c ∈ ds, c.isDigit
  first : ds.head? ≠ some '0'
  last : ds.getLast? ≠ some '0'

/-- The digits that are left when trailing zeros are dropped stand for the same number. -/
theorem Scientific.Full.trimmed {s : Scientific} (full : s.Full) :
    Trimmed (dropTrailingZeros (Decimal.digits s.digits)) ∧
      s.value = ofDigits (dropTrailingZeros (Decimal.digits s.digits)) *
        10 ^ (s.exponent + 1 - (dropTrailingZeros (Decimal.digits s.digits)).length) := by
  obtain ⟨least, greatest⟩ := full
  have positive : 0 < s.digits := (Nat.pow_pos (by decide)).trans_le least
  obtain ⟨digit, nonempty, value, lead⟩ := digits_spec s.digits
  obtain ⟨⟨k, dropped⟩, last⟩ := dropTrailingZeros_spec (Decimal.digits s.digits)
  generalize dropTrailingZeros (Decimal.digits s.digits) = ds at dropped last
  have total : ofDigits ds * 10 ^ k = s.digits := by
    rw [← value, dropped, ofDigits_append, ofDigits_zeros, List.length_replicate, Nat.add_zero]
  have count : ds.length + k = precision := by
    have most : length s.digits ≤ precision := (length_le_iff precision).mpr greatest
    have fewest : ¬ length s.digits ≤ precision - 1 := fun few =>
      Nat.not_lt.mpr least ((length_le_iff _).mp few)
    rw [← length_digits positive, dropped, List.length_append, List.length_replicate] at most fewest
    simp only [precision] at most fewest ⊢
    omega
  have some : ds ≠ [] := by
    rintro rfl
    rw [← total] at positive
    simp [ofDigits] at positive
  refine ⟨⟨some, fun c there => digit c ?_, ?_, last⟩, ?_⟩
  · rw [dropped]
    exact List.mem_append_left _ there
  · have first := lead positive
    rwa [dropped, List.head?_append_of_ne_nil _ some] at first
  · rw [Scientific.value, ← total, ← count]
    push_cast
    rw [mul_assoc, ← zpow_natCast, ← zpow_add₀ (by norm_num)]
    congr 2
    ring

theorem pointValue_eq (whole fraction : List Char) :
    pointValue whole fraction = ofDigits (whole ++ fraction) * 10 ^ (-(fraction.length : Int)) := by
  rw [pointValue, ofDigits_append, zpow_neg, zpow_natCast]
  push_cast
  field_simp

section Layouts
variable {ds : List Char} {d : ℚ} {e : Int}

/-- One digit before the point and the others after it. If there are no others a zero stands there. -/
theorem Trimmed.withExponent (trimmed : Trimmed ds)
    (value : d = ofDigits ds * 10 ^ (e + 1 - ds.length)) :
    WithExponent (ds.take 1 ++ '.' :: (if (ds.drop 1).isEmpty then ['0'] else ds.drop 1) ++
      'E' :: (if e < 0 then '-' else '+') :: digits e.natAbs) d e := by
  obtain ⟨digit, nonempty, power, -⟩ := digits_spec e.natAbs
  have exponent := isDigits_iff.mpr ⟨nonempty, digit⟩
  have shortest := hasLeadingZero_digits e.natAbs
  match ds, trimmed with
  | [first], ⟨_, digit, lead, _⟩ =>
    refine .intro first ['0'] _ rfl (digit first (List.mem_singleton_self first)) (by simpa using lead)
      (by decide) (.inl rfl) exponent shortest power ?_
    have nothing : ofDigits ['0'] = 0 := rfl
    rw [value, pointValue, nothing]
    simp
  | first :: second :: rest, ⟨_, digit, lead, last⟩ =>
    refine .intro first (second :: rest) _ rfl (digit first List.mem_cons_self) (by simpa using lead)
      (isDigits_iff.mpr ⟨nofun, fun c there => digit c (List.mem_cons_of_mem _ there)⟩)
      (.inr (by simpa using last)) exponent shortest power ?_
    rw [value, pointValue_eq, mul_assoc, ← zpow_add₀ (by norm_num), List.singleton_append]
    congr 2
    simp only [List.length_cons]
    push_cast
    ring

theorem Trimmed.inPlace_small (trimmed : Trimmed ds) (small : e < 0)
    (value : d = ofDigits ds * 10 ^ (e + 1 - ds.length)) :
    InPlace ('0' :: '.' :: List.replicate (e.natAbs - 1) '0' ++ ds) d := by
  refine .point ['0'] (List.replicate (e.natAbs - 1) '0' ++ ds) rfl (by decide) rfl
    (isDigits_iff.mpr ⟨?_, ?_⟩) ?_ ?_
  · simp [trimmed.nonempty]
  · simp only [List.mem_append, List.mem_replicate]
    rintro c (⟨-, rfl⟩ | there)
    · rfl
    · exact trimmed.digit c there
  · rw [List.getLast?_append_of_ne_nil _ trimmed.nonempty]
    exact trimmed.last
  · have zeros : (['0'] : List Char) = List.replicate 1 '0' := rfl
    rw [value, pointValue_eq, zeros, ← List.append_assoc, List.replicate_append_replicate,
      ofDigits_append, ofDigits_zeros, List.length_append, List.length_replicate, Nat.zero_mul,
      Nat.zero_add]
    congr 2
    push_cast
    omega

theorem Trimmed.inPlace_whole (trimmed : Trimmed ds) (large : 0 ≤ e)
    (fits : ds.length ≤ e.natAbs + 1) (value : d = ofDigits ds * 10 ^ (e + 1 - ds.length)) :
    InPlace (ds ++ List.replicate (e.natAbs + 1 - ds.length) '0') d := by
  refine .whole (isDigits_iff.mpr ⟨by simp [trimmed.nonempty], ?_⟩) (hasLeadingZero_of_head? ?_) ?_
  · simp only [List.mem_append, List.mem_replicate]
    rintro c (there | ⟨-, rfl⟩)
    · exact trimmed.digit c there
    · rfl
  · rw [List.head?_append_of_ne_nil _ trimmed.nonempty]
    exact trimmed.first
  · have shift : e + 1 - ds.length = (e.natAbs + 1 - ds.length : Nat) := by omega
    rw [value, ofDigits_append, ofDigits_zeros, List.length_replicate, shift, zpow_natCast]
    push_cast
    ring

theorem Trimmed.inPlace_point (trimmed : Trimmed ds) (large : 0 ≤ e)
    (longer : e.natAbs + 1 < ds.length) (value : d = ofDigits ds * 10 ^ (e + 1 - ds.length)) :
    InPlace (ds.take (e.natAbs + 1) ++ '.' :: ds.drop (e.natAbs + 1)) d := by
  have before : ds.take (e.natAbs + 1) ≠ [] := by
    simpa using trimmed.nonempty
  have after : ds.drop (e.natAbs + 1) ≠ [] := by
    rw [ne_eq, List.drop_eq_nil_iff]
    omega
  refine .point _ _ rfl
    (isDigits_iff.mpr ⟨before, fun c there => trimmed.digit c (List.mem_of_mem_take there)⟩)
    (hasLeadingZero_of_head? ?_)
    (isDigits_iff.mpr ⟨after, fun c there => trimmed.digit c (List.mem_of_mem_drop there)⟩) ?_ ?_
  · rw [List.head?_take, if_neg (Nat.succ_ne_zero _)]
    exact trimmed.first
  · rw [List.getLast?_drop, if_neg (by omega)]
    exact trimmed.last
  · rw [value, pointValue_eq, List.take_append_drop, List.length_drop]
    congr 2
    omega

end Layouts

namespace Scientific
variable {s : Scientific}

/-- Full digits with an exponent from -4 up to 13 are written in place. -/
theorem Full.layout_inPlace (full : s.Full) (low : -4 ≤ s.exponent) (high : s.exponent ≤ 13) :
    InPlace s.layout s.value := by
  obtain ⟨trimmed, value⟩ := full.trimmed
  rw [layout, if_neg (by omega)]
  split
  next small => exact trimmed.inPlace_small small value
  next large =>
    dsimp only
    split
    next fits => exact trimmed.inPlace_whole (Int.not_lt.mp large) fits value
    next longer => exact trimmed.inPlace_point (Int.not_lt.mp large) (Nat.not_le.mp longer) value

/-- Full digits with an exponent outside that range are written with the exponent. -/
theorem Full.layout_withExponent (full : s.Full) (outside : s.exponent < -4 ∨ 13 < s.exponent) :
    WithExponent s.layout s.value s.exponent := by
  obtain ⟨trimmed, value⟩ := full.trimmed
  rw [layout, if_pos outside]
  exact trimmed.withExponent value

theorem Full.layout_kind (full : s.Full) :
    (InPlace s.layout s.value ↔ -4 ≤ s.exponent ∧ s.exponent ≤ 13) ∧
      (WithExponent s.layout s.value s.exponent ↔ ¬ (-4 ≤ s.exponent ∧ s.exponent ≤ 13)) := by
  by_cases inside : -4 ≤ s.exponent ∧ s.exponent ≤ 13
  · have inPlace := full.layout_inPlace inside.1 inside.2
    exact ⟨iff_of_true inPlace inside, iff_of_false (·.not_inPlace inPlace) (not_not_intro inside)⟩
  · have withExponent := full.layout_withExponent (by omega)
    exact ⟨iff_of_false withExponent.not_inPlace inside, iff_of_true withExponent inside⟩

theorem Full.layout_numeral (full : s.Full) :
    InPlace s.layout s.value ∨ WithExponent s.layout s.value s.exponent := by
  by_cases outside : s.exponent < -4 ∨ 13 < s.exponent
  · exact .inr (full.layout_withExponent outside)
  · exact .inl (full.layout_inPlace (by omega) (by omega))

theorem Full.layout_head (full : s.Full) : ∃ c rest, s.layout = c :: rest ∧ c.isDigit :=
  full.layout_numeral.elim InPlace.head_isDigit WithExponent.head_isDigit

end Scientific

end SqlBridge.Decimal
