import SqlBridge.Proofs.Decimal.Layout

/-! # The text of floating-point numbers

The value of a finite number follows from its bits: a sign, an exponent and a
fraction. The text of a number other than zero is a numeral for this value rounded
to fourteen significant digits, with a minus sign in front of a negative one. The
exponent of the rounded value decides how the numeral is laid out.
-/

namespace SqlBridge.Binary64
open Decimal

def exponentBits (x : Binary64) : Nat := x.magnitude / Nat.pow 2 52

def fractionBits (x : Binary64) : Nat := x.magnitude % Nat.pow 2 52

/-- The absolute value of a finite number. Where the exponent has no bits there is no leading bit
either. -/
def absolute (x : Binary64) : ℚ :=
  if x.exponentBits = 0 then x.fractionBits * 2 ^ (-1074 : ℤ)
  else (2 ^ 52 + x.fractionBits) * 2 ^ ((x.exponentBits : ℤ) - 1075)

def toRat (x : Binary64) : ℚ := if x.isNegative then -x.absolute else x.absolute

variable {x : Binary64}

theorem cast_pow_two (k : Nat) : ((Nat.pow 2 k : Nat) : ℚ) = 2 ^ (k : ℤ) := by
  rw [Nat.pow_eq, Nat.cast_pow, Nat.cast_ofNat, zpow_natCast]

theorem pow_two_pos (k : Nat) : 0 < Nat.pow 2 k := Nat.pow_pos (by decide)

theorem unitsPerOne_pos : 0 < unitsPerOne := by
  unfold unitsPerOne
  generalize 1074 = k
  exact pow_two_pos k

theorem cast_unitsPerOne_pos : (0 : ℚ) < unitsPerOne := by exact_mod_cast unitsPerOne_pos

theorem cast_unitsPerOne : (unitsPerOne : ℚ) = 2 ^ ((1074 : Nat) : ℤ) := by
  unfold unitsPerOne
  generalize 1074 = k
  exact cast_pow_two k

theorem absolute_eq (x : Binary64) : x.absolute = x.units / unitsPerOne := by
  rw [absolute, units, unitsOf, cast_unitsPerOne, div_eq_mul_inv, ← zpow_neg, Nat.cast_ofNat]
  split
  next none =>
    have small : x.magnitude < Nat.pow 2 52 := Nat.lt_of_div_eq_zero (by decide) none
    rw [if_pos small, fractionBits, Nat.mod_eq_of_lt small]
  next some =>
    have large : ¬ x.magnitude < Nat.pow 2 52 := fun small => some (Nat.div_eq_of_lt small)
    have power : ((x.magnitude / Nat.pow 2 52 - 1 : Nat) : ℤ) = x.exponentBits - 1 := by
      exact Nat.cast_sub (Nat.one_le_iff_ne_zero.mpr some)
    rw [if_neg large, Nat.cast_mul, cast_pow_two, power, mul_assoc, ← zpow_add₀ (by norm_num),
      Nat.cast_add, cast_pow_two]
    congr 2
    ring

theorem units_pos (nonzero : x.isZero = false) : 0 < x.units := by
  have magnitude : x.magnitude ≠ 0 := by simpa [isZero] using nonzero
  rw [units, unitsOf]
  split
  · exact Nat.pos_of_ne_zero magnitude
  · exact Nat.mul_pos (Nat.add_pos_left (by decide) _) (pow_two_pos _)

theorem absolute_pos (nonzero : x.isZero = false) : 0 < x.absolute := by
  rw [absolute_eq]
  exact div_pos (by exact_mod_cast units_pos nonzero) cast_unitsPerOne_pos

theorem toRat_neg_iff (nonzero : x.isZero = false) : x.toRat < 0 ↔ x.isNegative = true := by
  have positive := absolute_pos nonzero
  rw [toRat]
  split
  next negative => simp [positive, negative]
  next notNegative => simp [positive.le, notNegative]

/-- The text of a number that is neither zero nor infinite is laid out with its sign in front. -/
theorem textChars_eq (finite : x.isFinite = true) (nonzero : x.isZero = false) :
    x.textChars = if x.isNegative then '-' :: (Scientific.ofRatio x.units unitsPerOne).layout
      else (Scientific.ofRatio x.units unitsPerOne).layout := by
  have below : x.magnitude < infinityMagnitude := by simpa [isFinite] using finite
  have number : x.isNaN = false := by simpa [isNaN] using below.le
  have bounded : x.isInfinite = false := by simpa [isInfinite] using below.ne
  rw [textChars]
  simp only [number, bounded, nonzero, Bool.false_eq_true, if_false]

theorem ofRatio_units (nonzero : x.isZero = false) :
    (Scientific.ofRatio x.units unitsPerOne).Full ∧
      Rounded precision x.absolute (Scientific.ofRatio x.units unitsPerOne).value := by
  rw [absolute_eq]
  exact Scientific.ofRatio_rounded (units_pos nonzero) unitsPerOne_pos

theorem toRat_rounded {d : ℚ} (rounded : Rounded precision x.absolute d) :
    Rounded precision x.toRat (if x.isNegative then -d else d) := by
  rw [toRat]
  split
  · exact rounded.neg
  · exact rounded

theorem head?_signed {numeral : List Char} (head : ∃ c rest, numeral = c :: rest ∧ c.isDigit)
    (negative : Bool) :
    (if negative then '-' :: numeral else numeral).head? = some '-' ↔ negative = true := by
  obtain ⟨c, rest, rfl, digit⟩ := head
  cases negative with
  | true => simp
  | false =>
    have other : c ≠ '-' := by
      rintro rfl
      cases digit
    simp [other]

/-- The text of a number other than zero denotes the number rounded to fourteen significant digits, a tie
going to the even last digit. A minus sign stands in front exactly if the number is negative. What follows
is a numeral in place if the leading digit of the rounded number counts a power of ten from -4 up to 13, and
otherwise a numeral with this exponent. -/
theorem text_rounded (x : Binary64) (finite : x.isFinite = true) (nonzero : x.isZero = false) :
    ∃ (d : ℚ) (e : ℤ) (numeral : List Char),
      (∀ d', Rounded 14 x.toRat d' ↔ d' = d) ∧
      10 ^ e ≤ |d| ∧ |d| < 10 ^ (e + 1) ∧
      (d < 0 ↔ x.toRat < 0) ∧
      (x.text.toList.head? = some '-' ↔ x.toRat < 0) ∧
      x.text.toList = (if x.toRat < 0 then '-' :: numeral else numeral) ∧
      (InPlace numeral |d| ↔ -4 ≤ e ∧ e ≤ 13) ∧
      (WithExponent numeral |d| e ↔ ¬ (-4 ≤ e ∧ e ≤ 13)) := by
  obtain ⟨full, rounded⟩ := ofRatio_units nonzero
  have written := textChars_eq finite nonzero
  generalize Scientific.ofRatio x.units unitsPerOne = s at full rounded written
  obtain ⟨low, high⟩ := full.decade
  have positive : 0 < s.value := lt_of_lt_of_le (by positivity) low
  set d := if x.isNegative then -s.value else s.value with hd
  have signed : Rounded 14 x.toRat d := toRat_rounded rounded
  have size : |d| = s.value := by
    rw [hd]
    split
    · rw [abs_neg, abs_of_pos positive]
    · rw [abs_of_pos positive]
  have negative : d < 0 ↔ x.isNegative = true := by
    rw [hd]
    cases x.isNegative <;> simp [positive, positive.le]
  simp only [toRat_neg_iff nonzero, text, String.toList_ofList, written]
  refine ⟨d, s.exponent, s.layout, fun d' => ⟨(·.unique signed), fun same => same ▸ signed⟩, ?_, ?_, negative,
    head?_signed full.layout_head x.isNegative, rfl, ?_⟩
  · rwa [size]
  · rwa [size]
  · rw [size]
    exact full.layout_kind

/-- The fifteen digits of 99999999999999.5 are one too many. The tie is carried all the way to the next
power of ten, so that the number is written with an exponent though it is itself less than 10¹⁴. -/
theorem text_rounded_carried :
    let x : Binary64 := ⟨0x42d6bcc41e8fffe0⟩
    x.isFinite = true ∧ x.isZero = false ∧ x.text.toList = ['1', '.', '0', 'E', '+', '1', '4'] ∧
      ∃ (d : ℚ) (e : ℤ), Rounded 14 x.toRat d ∧ 10 ^ e ≤ |d| ∧ |d| < 10 ^ (e + 1) ∧
        ¬ (-4 ≤ e ∧ e ≤ 13) ∧ WithExponent ['1', '.', '0', 'E', '+', '1', '4'] |d| e := by
  intro x
  have finite : x.isFinite = true := by decide +kernel
  have nonzero : x.isZero = false := by decide +kernel
  have text : x.text.toList = ['1', '.', '0', 'E', '+', '1', '4'] := by decide +kernel
  obtain ⟨d, e, numeral, rounded, low, high, -, sign, written, inPlace, withExponent⟩ :=
    text_rounded x finite nonzero
  have positive : ¬ x.toRat < 0 := by
    rw [← sign, text]
    decide
  rw [if_neg positive, text] at written
  subst written
  have outside : ¬ (-4 ≤ e ∧ e ≤ 13) := fun inside =>
    absurd ((inPlace.mpr inside).mem (c := 'E') (by decide)) (by decide)
  exact ⟨finite, nonzero, text, d, e, (rounded d).mpr rfl, low, high, outside, withExponent.mpr outside⟩

end SqlBridge.Binary64
