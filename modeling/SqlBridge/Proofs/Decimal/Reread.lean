import SqlBridge.Proofs.Decimal.LastPlace
import SqlBridge.Proofs.Decimal.NearestBinary
import SqlBridge.Proofs.Decimal.Reading
import SqlBridge.Value

/-! # Reading the text of a number again

The text of a number holds fourteen digits, and is read as the number that is nearest
to these. It need not be the number that was written, but it has the same text: a unit
of the numbers is mostly finer than the last of fourteen digits by far. That is not so
among the subnormal numbers. Where a unit is coarser than the last digit each number
is read as itself. In between lies one decade in which the last digit counts two
units, and there the least power of ten has to be looked at by itself.
-/

namespace SqlBridge.Binary64
open Decimal

/-! ## Units in the last place -/

/-- How many units one in the last place counts. -/
def placeUnits (e : ℤ) : ℚ := place e * unitsPerOne

theorem placeUnits_pos (e : ℤ) : 0 < placeUnits e := mul_pos (place_pos e) cast_unitsPerOne_pos

theorem placeUnits_pred {e e' : ℤ} (next : e' = e + 1) : placeUnits e = placeUnits e' / 10 := by
  rw [placeUnits, placeUnits, eq_sub_of_add_eq next.symm, place_pred, div_mul_eq_mul_div]

theorem placeUnits_mono {e e' : ℤ} (le : e ≤ e') : placeUnits e ≤ placeUnits e' :=
  mul_le_mul_of_nonneg_right (place_mono le) cast_unitsPerOne_pos.le

theorem placeUnits_least :
    (2024022533073106 / 10 ^ 15 : ℚ) < placeUnits (-310) ∧
      placeUnits (-310) < (2024022533073107 / 10 ^ 15 : ℚ) := by
  have low : 2024022533073106 * 10 ^ 323 < unitsPerOne * 10 ^ 15 := by decide +kernel
  have high : unitsPerOne * 10 ^ 15 < 2024022533073107 * 10 ^ 323 := by decide +kernel
  have power : placeUnits (-310) = unitsPerOne / 10 ^ 323 := by
    have exponent : (-310 + 1 - precision : ℤ) = -(323 : Nat) := rfl
    rw [placeUnits, place, exponent, zpow_neg, zpow_natCast, inv_mul_eq_div]
  rw [power, div_lt_div_iff₀ (by positivity) (by positivity), div_lt_div_iff₀ (by positivity) (by positivity)]
  exact ⟨by exact_mod_cast low, by exact_mod_cast high⟩

section Reading
variable {s : Scientific} {k : Nat}

theorem value_units (s : Scientific) : s.value * unitsPerOne = s.digits * placeUnits s.exponent := by
  rw [Scientific.value_eq, placeUnits, mul_assoc]

/-- Numbers near a decimal are rounded to it, with distances counted in units. -/
theorem rounded_of_near_units (full : s.Full)
    (near : |s.digits * placeUnits s.exponent - k| < placeUnits s.exponent / 2)
    (nearer : k < 10 ^ 13 * placeUnits s.exponent →
      |s.digits * placeUnits s.exponent - k| < placeUnits s.exponent / 20) :
    Rounded precision (k / unitsPerOne) s.value := by
  have positive := cast_unitsPerOne_pos
  rw [← value_units, placeUnits] at *
  generalize (unitsPerOne : ℚ) = u at *
  have counted {c : ℚ} : |k / u - s.value| < c ↔ |s.value * u - k| < c * u := by
    rw [abs_sub_comm (s.value * u), abs_sub_mul positive, mul_lt_mul_iff_of_pos_right positive]
  refine full.rounded_of_near (counted.mpr ?_) fun below => counted.mpr ?_
  · rwa [div_mul_eq_mul_div]
  · rw [div_mul_eq_mul_div]
    rw [pow_eq_place, div_lt_iff₀ positive, mul_assoc] at below
    exact nearer below

/-- A relative error of one in 2⁵³ is less than a twentieth of the last place. -/
theorem rounded_of_relative (full : s.Full)
    (close : |s.value * unitsPerOne - k| ≤ s.value * unitsPerOne / 2 ^ 53) :
    Rounded precision (k / unitsPerOne) s.value := by
  have positive := placeUnits_pos s.exponent
  have most : ((s.digits : ℚ) + 1) * placeUnits s.exponent ≤ 10 ^ 14 * placeUnits s.exponent :=
    mul_le_mul_of_nonneg_right full.succ_digits_le positive.le
  rw [value_units] at close
  have small := close.trans_lt (show _ < placeUnits s.exponent / 20 by linarith)
  exact rounded_of_near_units full (by linarith) fun _ => small

/-- Half a unit is less than a twentieth of the last place as far down as there are ten units in it. -/
theorem rounded_of_fine (full : s.Full) (fine : -309 ≤ s.exponent)
    (close : |s.value * unitsPerOne - k| ≤ 1 / 2) : Rounded precision (k / unitsPerOne) s.value := by
  have many : 20 < placeUnits s.exponent := by
    have least := placeUnits_least.1
    have tenth : placeUnits (-310) = placeUnits (-309) / 10 := placeUnits_pred (by decide)
    have more := placeUnits_mono fine
    linarith
  rw [value_units] at close
  exact rounded_of_near_units full (by linarith) fun _ => by linarith

/-- Where there are two units in the last place only one number below a power of ten is not farther than half
a unit from a decimal above: it is nearer than that to the power of ten. -/
theorem rounded_of_edge (full : s.Full) (edge : s.exponent = -310)
    (close : |s.value * unitsPerOne - k| ≤ 1 / 2) : Rounded precision (k / unitsPerOne) s.value := by
  obtain ⟨low, high⟩ := placeUnits_least
  rw [value_units] at close
  rw [← edge] at low high
  refine rounded_of_near_units full (by linarith) fun below => ?_
  generalize placeUnits s.exponent = a at *
  -- the least power of ten holds 20240225330731.06 units, and the next decimal two more
  obtain ⟨left, right⟩ := abs_le.mp close
  have atMost : k < 20240225330732 := by
    have : (k : ℚ) < 20240225330732 := by linarith
    exact_mod_cast this
  have fewest : s.digits = 10 ^ 13 := by
    refine Nat.le_antisymm (Nat.lt_add_one_iff.mp (Nat.not_le.mp fun more => ?_)) full.1
    have more : ((10 ^ 13 + 1 : Nat) : ℚ) ≤ s.digits := by exact_mod_cast more
    have above := mul_le_mul_of_nonneg_right more (show 0 ≤ a by linarith)
    push_cast at above
    linarith
  rw [fewest] at left right ⊢
  push_cast at left right ⊢
  have atLeast : 20240225330730 < k := by
    have : (20240225330730 : ℚ) < k := by linarith
    exact_mod_cast this
  have only : (k : ℚ) = 20240225330731 := by exact_mod_cast (show k = 20240225330731 by omega)
  rw [only, abs_of_nonneg (by linarith)]
  linarith

/-- Where a unit is more than the last place rounding to digits is off by less than half a unit, and the
number itself is read again. -/
theorem nearest_of_coarse {n : Nat} {d : ℚ} (nonzero : 0 < n) (rounded : Rounded precision (n / unitsPerOne) d)
    (coarse : Int.log 10 (n / unitsPerOne : ℚ) ≤ -311) : NearestEven (d * unitsPerOne) n := by
  have units := cast_unitsPerOne_pos
  have positive : (0 : ℚ) < n / unitsPerOne := div_pos (by exact_mod_cast nonzero) units
  have off := rounded.error_le positive
  apply NearestEven.of_lt
  calc |d * unitsPerOne - (n : ℤ)| = |(n / unitsPerOne - d : ℚ)| * unitsPerOne := by
        rw [Int.cast_natCast, abs_sub_comm, abs_sub_mul units]
    _ ≤ place (-311) / 2 * unitsPerOne :=
        mul_le_mul_of_nonneg_right (off.trans (by linarith [place_mono coarse])) units.le
    _ < 1 / 2 := by
        have few := placeUnits_least.2
        have tenth : placeUnits (-311) = placeUnits (-310) / 10 := placeUnits_pred (by decide)
        rw [placeUnits] at tenth
        linarith

/-- The number that is read again is rounded to the same digits. -/
theorem Steps.rounded {n step count : Nat} (nonzero : 0 < n) (full : s.Full)
    (written : Rounded precision (n / unitsPerOne) s.value)
    (steps : Steps (s.value * unitsPerOne) step count) :
    Rounded precision (unitsOf (ofSteps step count) / unitsPerOne) s.value := by
  have positive : (0 : ℚ) < n / unitsPerOne := div_pos (by exact_mod_cast nonzero) cast_unitsPerOne_pos
  obtain ⟨one, nearest⟩ | close := steps.error
  · -- the steps are units: in the subnormal numbers, and not far above
    have whole : (unitsOf (ofSteps step count) : ℚ) = count := by
      rw [steps.units_eq, one, pow_zero, mul_one]
    rw [whole]
    by_cases coarse : Int.log 10 (n / unitsPerOne : ℚ) ≤ -311
    · have same : (n : ℤ) = count := (nearest_of_coarse nonzero written coarse).unique nearest
      rwa [← Nat.cast_inj.mp same]
    · have exponent : -310 ≤ s.exponent := by
        have := (written.decade positive).1.trans_lt full.decade.2
        have := (zpow_lt_zpow_iff_right₀ (show (1 : ℚ) < 10 by norm_num)).mp this
        omega
      have close : |s.value * unitsPerOne - (count : ℤ)| ≤ 1 / 2 := nearest.1
      obtain edge | fine := exponent.eq_or_lt
      · exact rounded_of_edge full edge.symm close
      · exact rounded_of_fine full (by omega) close
  · exact rounded_of_relative full close

end Reading

/-! ## The greatest number -/

/-- The units in the greatest finite number, counted in the last place of its digits: about 17976931348623.16. -/
theorem placeUnits_greatest :
    17976931348623 * placeUnits 308 < ((2 ^ 53 - 1) * 2 ^ 2045 : Nat) ∧
      ((2 ^ 53 - 1) * 2 ^ 2045 : Nat) < 35953862697247 / 2 * placeUnits 308 := by
  have low : 17976931348623 * (10 ^ 295 * unitsPerOne) < (2 ^ 53 - 1) * 2 ^ 2045 := by decide +kernel
  have high : (2 ^ 53 - 1) * 2 ^ 2045 * 2 < 35953862697247 * (10 ^ 295 * unitsPerOne) := by decide +kernel
  have power : placeUnits 308 = (10 ^ 295 * unitsPerOne : Nat) := by
    have exponent : (308 + 1 - precision : ℤ) = (295 : Nat) := rfl
    rw [placeUnits, place, exponent, zpow_natCast, Nat.cast_mul, Nat.cast_pow, Nat.cast_ofNat]
  rw [power, div_mul_eq_mul_div, lt_div_iff₀ two_pos]
  generalize 10 ^ 295 * unitsPerOne = p at *
  generalize (2 ^ 53 - 1) * 2 ^ 2045 = g at *
  exact ⟨by exact_mod_cast low, by exact_mod_cast high⟩

/-- Rounding to digits does not lead beyond the finite numbers. -/
theorem units_lt_of_rounded {n : Nat} {d : ℚ} (nonzero : 0 < n) (finite : n ≤ (2 ^ 53 - 1) * 2 ^ 2045)
    (rounded : Rounded precision (n / unitsPerOne) d) :
    d * unitsPerOne < ((2 ^ 53 - 1) * 2 ^ 2045 : Nat) := by
  have units := cast_unitsPerOne_pos
  have positive : (0 : ℚ) < n / unitsPerOne := div_pos (by exact_mod_cast nonzero) units
  obtain ⟨low, high⟩ := placeUnits_greatest
  have finite : (n : ℚ) ≤ ((2 ^ 53 - 1) * 2 ^ 2045 : Nat) := Nat.cast_le.mpr finite
  have counted : (n / unitsPerOne : ℚ) / place 308 < 35953862697247 / 2 := by
    rw [div_div, div_lt_iff₀ (mul_pos units (place_pos _)), mul_comm (unitsPerOne : ℚ)]
    exact finite.trans_lt high
  have exponent : Int.log 10 (n / unitsPerOne : ℚ) ≤ 308 := by
    rw [← Int.lt_add_one_iff, ← Int.lt_zpow_iff_log_lt (by decide) positive, Nat.cast_ofNat,
      pow_succ_eq_place, ← div_lt_iff₀ (place_pos _)]
    exact counted.trans (by norm_num)
  refine lt_of_le_of_lt ?_ low
  rw [placeUnits, ← mul_assoc]
  refine mul_le_mul_of_nonneg_right ?_ units.le
  obtain less | last := exponent.lt_or_eq
  · calc d ≤ 10 ^ (Int.log 10 (n / unitsPerOne : ℚ) + 1) := (rounded.decade positive).2
      _ ≤ 10 ^ (308 : ℤ) := zpow_le_zpow_right₀ (by norm_num) less
      _ = 10 ^ 13 * place 308 := pow_eq_place 308
      _ ≤ 17976931348623 * place 308 := mul_le_mul_of_nonneg_right (by norm_num) (place_pos _).le
  · obtain ⟨m, nearest, rfl⟩ := rounded.exists_count positive
    rw [last] at nearest ⊢
    have near := (abs_le.mp nearest.1).1
    have few : (m : ℚ) < 17976931348624 := by linarith
    have few : m ≤ 17976931348623 := Int.lt_add_one_iff.mp (by exact_mod_cast few)
    exact mul_le_mul_of_nonneg_right (by exact_mod_cast few) (place_pos _).le

/-! ## The text -/

theorem units_le {x : Binary64} (finite : x.isFinite = true) : x.units ≤ (2 ^ 53 - 1) * 2 ^ 2045 := by
  have below : x.magnitude < infinityMagnitude := by simpa [isFinite] using finite
  exact unitsOf_le below

theorem absolute_of_isZero {x : Binary64} (zero : x.isZero = true) : x.absolute = 0 := by
  have magnitude : x.magnitude = 0 := by simpa [isZero] using zero
  have nothing : unitsOf 0 = 0 := rfl
  rw [absolute_eq, units, magnitude, nothing, Nat.cast_zero, zero_div]

/-- What is written for a number that is neither zero nor infinite is read as the number that is nearest to
the decimal written, and this number is written in the same way. -/
theorem textChars_reread {x : Binary64} (finite : x.isFinite = true) (nonzero : x.isZero = false) :
    ∃ y d, readFloat (Text.trim x.textChars) = some y ∧ y.textChars = x.textChars ∧
      Rounded precision x.absolute d ∧ y.Rounds x.isNegative d := by
  obtain ⟨full, rounded⟩ := ofRatio_units nonzero
  have written := textChars_eq finite nonzero
  generalize Scientific.ofRatio x.units unitsPerOne = s at full rounded written
  rw [absolute_eq] at rounded
  obtain ⟨digits, exponent, value, read⟩ := full.layout_readAs
  obtain ⟨step, count, steps, decimal⟩ := ofDecimal_steps x.isNegative digits exponent
  rw [← value] at steps
  have again := steps.rounded (units_pos nonzero) full rounded
  have bound : ofSteps step count < infinityMagnitude :=
    steps.ofSteps_lt (units_lt_of_rounded (units_pos nonzero) (units_le finite) rounded)
  have within := (Nat.min_eq_right bound.le).symm
  obtain ⟨magnitude, sign⟩ := magnitude_ofMagnitude x.isNegative (bound.trans (by decide))
  rw [← within] at decimal
  generalize ofMagnitude x.isNegative (ofSteps step count) = y at magnitude sign decimal
  refine ⟨y, s.value, ?_, ?_, absolute_eq x ▸ rounded, sign, _, steps.nearestPattern, magnitude.trans within⟩
  · rw [written, full.readFloat_signed, read, decimal]
  rw [← magnitude] at again bound
  have again : Rounded precision y.absolute s.value := absolute_eq y ▸ again
  have finite' : y.isFinite = true := by simpa [isFinite] using bound
  have nonzero' : y.isZero = false := by
    by_contra zero
    rw [absolute_of_isZero (Bool.not_eq_false _ ▸ zero)] at again
    have positive : 0 < s.value := lt_of_lt_of_le (by positivity) full.decade.1
    exact positive.ne' again.eq_zero
  obtain ⟨full', rounded'⟩ := ofRatio_units nonzero'
  have written' := textChars_eq finite' nonzero'
  generalize Scientific.ofRatio y.units unitsPerOne = t at full' rounded' written'
  rw [written', full'.eq_of_value full (rounded'.unique again), sign, written]

theorem zero_reread {x : Binary64} (zero : x.isZero = true) :
    ∃ y d, readFloat (Text.trim x.textChars) = some y ∧ y.textChars = x.textChars ∧
      Rounded precision x.absolute d ∧ y.Rounds x.isNegative d := by
  have magnitude : x.magnitude = 0 := by simpa [isZero] using zero
  have written : x.textChars = if x.isNegative then ['-', '0'] else ['0'] := by
    simp [textChars, isNaN, isInfinite, isZero, magnitude, infinityMagnitude]
  refine ⟨.ofDecimal x.isNegative 0 0, 0, ?_, ?_, ?_, ?_⟩
  · rw [written]
    cases x.isNegative <;> decide +kernel
  · rw [written]
    cases x.isNegative <;> decide +kernel
  · rw [absolute_of_isZero zero]
    exact ⟨0, .of_lt (by norm_num), by norm_num⟩
  · simpa using ofDecimal_rounds x.isNegative 0 0

theorem word_reread {x : Binary64} (word : x.isFinite = false) :
    ∃ y, readFloat (Text.trim x.textChars) = some y ∧ y.textChars = x.textChars := by
  by_cases number : x.isNaN
  · refine ⟨nan, ?_⟩
    have written : x.textChars = ['N', 'A', 'N'] := by rw [textChars, if_pos number]
    rw [written]
    decide +kernel
  · have infinite : x.isInfinite = true := by
      simp only [isNaN, isInfinite, isFinite, decide_eq_true_eq, decide_eq_false_iff_not] at *
      omega
    refine ⟨infinity x.isNegative, ?_⟩
    have written : x.textChars = if x.isNegative then ['-', 'I', 'N', 'F'] else ['I', 'N', 'F'] := by
      simp [textChars, number, infinite]
    rw [written]
    cases x.isNegative <;> decide +kernel

/-- The text of any number is read, and the number that is read has the same text. It is the number nearest to
the fourteen digits that the text of a finite number holds. -/
theorem text_reread (x : Binary64) :
    ∃ y, (Value.text x.text).toFloat? = some y ∧ y.text = x.text ∧
      (x.isFinite = true → ∃ d, Rounded 14 x.absolute d ∧ y.Rounds x.isNegative d) := by
  have read {y : Binary64} (chars : readFloat (Text.trim x.textChars) = some y) :
      (Value.text x.text).toFloat? = some y := by
    rw [Value.toFloat?, text, String.toList_ofList, chars]
  by_cases finite : x.isFinite
  · have decimal : ∃ y d, readFloat (Text.trim x.textChars) = some y ∧ y.textChars = x.textChars ∧
        Rounded precision x.absolute d ∧ y.Rounds x.isNegative d := by
      cases nonzero : x.isZero with
      | true => exact zero_reread nonzero
      | false => exact textChars_reread finite nonzero
    obtain ⟨y, d, chars, same, rounded, nearest⟩ := decimal
    exact ⟨y, read chars, congrArg String.ofList same, fun _ => ⟨d, rounded, nearest⟩⟩
  · obtain ⟨y, chars, same⟩ := word_reread (Bool.not_eq_true _ ▸ finite)
    exact ⟨y, read chars, congrArg String.ofList same, fun finite' => absurd finite' finite⟩

/-- Two subnormal numbers have the text of 10⁻³¹⁰. The greater one is read as the other. -/
theorem text_reread_subnormal :
    let x : Binary64 := ⟨20240225330732⟩
    x.isFinite = true ∧ x.text = "1.0E-310" ∧
      ∃ y : Binary64, (Value.text x.text).toFloat? = some y ∧ y.text = x.text ∧ y ≠ x ∧
        ∃ d, Rounded 14 x.absolute d ∧ y.Rounds x.isNegative d := by
  intro x
  have finite : x.isFinite = true := by decide +kernel
  have text : x.text = "1.0E-310" := by decide +kernel
  obtain ⟨y, read, same, nearest⟩ := text_reread x
  have other : (Value.text x.text).toFloat? ≠ some x := by decide +kernel
  have different : y ≠ x := by
    rintro rfl
    exact other read
  exact ⟨finite, text, y, read, same, different, nearest finite⟩

end SqlBridge.Binary64
