import SqlBridge.Proofs.Decimal.FloatText
import SqlBridge.Decimal.Reader

/-! # Rounding to binary numbers

A rational is rounded to a binary number by counting it in steps of a power of two
units. One unit is the step of the least numbers, and above them the step is the one
that takes fifty-three bits to count. The number of steps is the nearest one, a tie
going to the even one, and so is the number that they make up. A decimal is rounded in
this way whatever its exponent is.
-/

namespace SqlBridge.Binary64
open Decimal

/-- So many steps are nearest to this many units. There are fewer than 2⁵³ of them before rounding, and at
least 2⁵² if a step is more than one unit. -/
structure Steps (q : ℚ) (step count : Nat) : Prop where
  nearest : NearestEven (q / 2 ^ step) count
  fits : q / 2 ^ step < 2 ^ 53
  normal : step = 0 ∨ 2 ^ 52 ≤ q / 2 ^ step

/-- The magnitude of a number that is made up of steps. A carry out of the fraction moves the exponent. -/
def ofSteps (step count : Nat) : Nat := step * Nat.pow 2 52 + count

theorem unitsOf_ofSteps {step count : Nat} (most : count ≤ 2 ^ 53) (normal : step = 0 ∨ 2 ^ 52 ≤ count) :
    unitsOf (ofSteps step count) = count * Nat.pow 2 step := by
  have positive : 0 < Nat.pow 2 52 := pow_two_pos 52
  have twice : 2 ^ 53 = 2 * Nat.pow 2 52 := rfl
  have same : 2 ^ 52 = Nat.pow 2 52 := rfl
  rw [twice] at most
  rw [same] at normal
  rw [unitsOf, ofSteps]
  generalize Nat.pow 2 52 = p at *
  obtain less | full | carried : count < p ∨ (p ≤ count ∧ count < 2 * p) ∨ count = 2 * p := by omega
  · obtain rfl : step = 0 := by omega
    rw [Nat.zero_mul, Nat.zero_add, if_pos less]
    exact (Nat.mul_one count).symm
  · obtain ⟨fraction, rfl⟩ := Nat.exists_eq_add_of_le full.1
    have split : step * p + (p + fraction) = fraction + p * (step + 1) := by ring
    have small : fraction < p := by omega
    rw [if_neg (by omega), split, Nat.add_mul_mod_self_left, Nat.add_mul_div_left _ _ positive,
      Nat.mod_eq_of_lt small, Nat.div_eq_of_lt small, Nat.zero_add, Nat.add_sub_cancel]
  · have split : step * p + count = p * (step + 1 + 1) := by rw [carried]; ring
    rw [split, if_neg (Nat.not_lt.mpr (Nat.le_mul_of_pos_right p (Nat.succ_pos _))), Nat.mul_mod_right,
      Nat.mul_div_cancel_left _ positive, Nat.add_sub_cancel, Nat.add_zero, Nat.pow_eq, Nat.pow_eq,
      Nat.pow_succ, carried]
    ring

/-! ## Counting in steps -/

theorem log2_bounds {q : ℚ} (nonneg : 0 ≤ q) (step : Nat) (chosen : step = ⌊q⌋₊.log2 - 52) :
    q / 2 ^ step < 2 ^ 53 ∧ (step = 0 ∨ 2 ^ 52 ≤ q / 2 ^ step) := by
  have unit : (0 : ℚ) < 2 ^ step := by positivity
  have above : q < 2 ^ (53 + step) := by
    have fewer : ⌊q⌋₊ < 2 ^ (53 + step) :=
      Nat.lt_log2_self.trans_le (Nat.pow_le_pow_right (by decide) (by omega))
    exact_mod_cast (Nat.floor_lt nonneg).mp fewer
  rw [div_lt_iff₀ unit, le_div_iff₀ unit, ← pow_add, ← pow_add]
  refine ⟨above, ?_⟩
  rw [or_iff_not_imp_left]
  intro some
  have nonzero : ⌊q⌋₊ ≠ 0 := by
    intro zero
    rw [zero] at chosen
    exact some (by simpa using chosen)
  have least : 2 ^ (52 + step) ≤ ⌊q⌋₊ :=
    (Nat.pow_le_pow_right (by decide) (by omega)).trans (Nat.log2_self_le nonzero)
  exact_mod_cast (Nat.le_floor_iff nonneg).mp least

/-- A ratio is rounded by counting steps, and a number with too many of them becomes infinite. -/
theorem roundMagnitude_steps (num : Nat) {den : Nat} (positive : 0 < den) :
    ∃ step count, Steps (num / den * unitsPerOne) step count ∧
      roundMagnitude num den = min infinityMagnitude (ofSteps step count) := by
  have floor : ⌊(num / den * unitsPerOne : ℚ)⌋₊ = num * unitsPerOne / den := by
    rw [div_mul_eq_mul_div, ← Nat.cast_mul, Nat.floor_div_eq_div]
  set step := (num * unitsPerOne / den).log2 - 52 with chosen
  have nonneg : (0 : ℚ) ≤ num / den * unitsPerOne :=
    mul_nonneg (div_nonneg (Nat.cast_nonneg _) (Nat.cast_nonneg _)) (Nat.cast_nonneg _)
  obtain ⟨fits, normal⟩ := log2_bounds nonneg step (by rw [chosen, floor])
  refine ⟨step, roundDivEven (num * unitsPerOne) (den * Nat.pow 2 step), ⟨?_, fits, normal⟩, rfl⟩
  have scaled : (num / den * unitsPerOne / 2 ^ step : ℚ) =
      (num * unitsPerOne : Nat) / (den * Nat.pow 2 step : Nat) := by
    rw [Nat.pow_eq, div_mul_eq_mul_div, div_div]
    push_cast
    rfl
  rw [scaled]
  exact roundDivEven_nearest _ (Nat.mul_pos positive (pow_two_pos step))

namespace Steps
variable {q : ℚ} {step count : Nat}

theorem count_le (steps : Steps q step count) : count ≤ 2 ^ 53 := by
  have := steps.nearest.le_of_lt (k := (2 ^ 53 : Nat)) (by exact_mod_cast steps.fits)
  exact_mod_cast this

theorem le_count (steps : Steps q step count) : step = 0 ∨ 2 ^ 52 ≤ count := by
  refine steps.normal.imp_right fun least => ?_
  have := steps.nearest.le_of_le (k := (2 ^ 52 : Nat)) (by exact_mod_cast least)
  exact_mod_cast this

theorem units_eq (steps : Steps q step count) :
    (unitsOf (ofSteps step count) : ℚ) = count * 2 ^ step := by
  rw [unitsOf_ofSteps steps.count_le steps.le_count, Nat.pow_eq]
  push_cast
  rfl

/-- Rounding is off by half a unit at most, or by half of one in 2⁵². -/
theorem error (steps : Steps q step count) :
    step = 0 ∧ NearestEven q count ∨ |q - unitsOf (ofSteps step count)| ≤ q / 2 ^ 53 := by
  refine steps.normal.imp (fun one => ?_) fun least => ?_
  · subst one
    exact ⟨rfl, by simpa using steps.nearest⟩
  · have unit : (0 : ℚ) < 2 ^ step := by positivity
    rw [le_div_iff₀ unit] at least
    calc |q - unitsOf (ofSteps step count)| = |q / 2 ^ step - (count : ℤ)| * 2 ^ step := by
          rw [steps.units_eq, ← abs_sub_mul unit, Int.cast_natCast]
      _ ≤ 1 / 2 * 2 ^ step := mul_le_mul_of_nonneg_right steps.nearest.1 unit.le
      _ = 2 ^ 52 * 2 ^ step / 2 ^ 53 := by ring
      _ ≤ q / 2 ^ 53 := div_le_div_of_nonneg_right least (by positivity)

theorem eq_zero (steps : Steps q step count) (small : q < 1 / 2) : ofSteps step count = 0 := by
  obtain rfl | least := steps.normal
  · have below := (abs_le.mp steps.nearest.1).1
    rw [pow_zero, div_one, Int.cast_natCast] at below
    have : (count : ℚ) < 1 := by linarith
    have none : count = 0 := Nat.lt_one_iff.mp (by exact_mod_cast this)
    rw [none]
    rfl
  · rw [le_div_iff₀ (by positivity)] at least
    have : (1 : ℚ) ≤ 2 ^ step := one_le_pow₀ (by norm_num)
    linarith

/-- What takes fifty-three bits of steps, or more, keeps at least this exponent. -/
theorem le_ofSteps (steps : Steps q step count) {k : Nat} (large : 2 ^ 53 * 2 ^ k ≤ q) :
    (k + 2) * Nat.pow 2 52 ≤ ofSteps step count := by
  have fits := steps.fits
  rw [div_lt_iff₀ (by positivity)] at fits
  have more : k < step :=
    (pow_lt_pow_iff_right₀ (show (1 : ℚ) < 2 by norm_num)).mp (lt_of_mul_lt_mul_left (large.trans_lt fits) (by positivity))
  obtain least := steps.le_count.resolve_left (by omega)
  rw [ofSteps]
  calc (k + 2) * Nat.pow 2 52 ≤ step * Nat.pow 2 52 + 2 ^ 52 := by
        have : (k + 1) * Nat.pow 2 52 ≤ step * Nat.pow 2 52 := Nat.mul_le_mul_right _ more
        rw [Nat.pow_eq] at *
        linarith
    _ ≤ step * Nat.pow 2 52 + count := Nat.add_le_add_left least _

/-- What is less than the greatest number of steps does not reach the next exponent. -/
theorem ofSteps_lt (steps : Steps q step count) {k : Nat} (small : q < ((2 ^ 53 - 1) * 2 ^ k : Nat)) :
    ofSteps step count < (k + 2) * Nat.pow 2 52 := by
  have most := steps.count_le
  rw [Nat.cast_mul, Nat.cast_pow, Nat.cast_ofNat] at small
  rw [ofSteps, Nat.pow_eq]
  obtain less | rfl | more := Nat.lt_trichotomy step k
  · have : (step + 1) * 2 ^ 52 ≤ k * 2 ^ 52 := Nat.mul_le_mul_right _ less
    omega
  · rw [← div_lt_iff₀ (by positivity)] at small
    have fewer := steps.nearest.le_of_lt (k := (2 ^ 53 - 1 : Nat)) (by exact_mod_cast small)
    have : count ≤ 2 ^ 53 - 1 := by exact_mod_cast fewer
    omega
  · have least := steps.normal.resolve_left (by omega)
    rw [le_div_iff₀ (by positivity)] at least
    have doubled : (2 : ℚ) ^ (k + 1) ≤ 2 ^ step := pow_le_pow_right₀ (by norm_num) more
    rw [pow_succ] at doubled
    have fewer : ((2 ^ 53 - 1 : Nat) : ℚ) * 2 ^ k ≤ 2 ^ 53 * 2 ^ k :=
      mul_le_mul_of_nonneg_right (by norm_num) (by positivity)
    linarith

end Steps

/-! ## The nearest pattern -/

/-- Every magnitude is made up of steps in one way without a carry. -/
theorem exists_ofSteps (m : Nat) :
    ∃ step count, m = ofSteps step count ∧ count < 2 ^ 53 ∧ (step = 0 ∨ 2 ^ 52 ≤ count) := by
  refine ⟨m / 2 ^ 52 - 1, m - (m / 2 ^ 52 - 1) * 2 ^ 52, ?_⟩
  rw [ofSteps, Nat.pow_eq]
  omega

theorem unitsOf_strictMono : StrictMono unitsOf := by
  refine strictMono_nat_of_lt_succ fun m => ?_
  obtain ⟨step, count, rfl, small, normal⟩ := exists_ofSteps m
  have next : ofSteps step count + 1 = ofSteps step (count + 1) := Nat.add_assoc _ _ _
  rw [next, unitsOf_ofSteps small.le normal, unitsOf_ofSteps (Nat.succ_le_of_lt small) (by omega),
    Nat.succ_mul]
  exact Nat.lt_add_of_pos_right (pow_two_pos step)

/-- What does not reach the next exponent is at most the greatest number of steps. -/
theorem unitsOf_le {m k : Nat} (below : m < (k + 2) * Nat.pow 2 52) : unitsOf m ≤ (2 ^ 53 - 1) * 2 ^ k := by
  have within : m ≤ ofSteps k (2 ^ 53 - 1) := by
    rw [ofSteps, Nat.pow_eq] at *
    omega
  have greatest : unitsOf (ofSteps k (2 ^ 53 - 1)) = (2 ^ 53 - 1) * Nat.pow 2 k :=
    unitsOf_ofSteps (by decide) (.inr (by decide))
  rw [Nat.pow_eq] at greatest
  exact greatest ▸ unitsOf_strictMono.monotone within

theorem exists_count {m step : Nat} (large : 2 ^ 52 * 2 ^ step ≤ unitsOf m) :
    ∃ count, unitsOf m = count * 2 ^ step := by
  obtain ⟨step', count', rfl, small, normal⟩ := exists_ofSteps m
  rw [unitsOf_ofSteps small.le normal, Nat.pow_eq] at large ⊢
  have finer : step ≤ step' := by
    have : 2 ^ (52 + step) < 2 ^ (53 + step') := by
      rw [Nat.pow_add, Nat.pow_add]
      exact large.trans_lt (Nat.mul_lt_mul_of_pos_right small (Nat.two_pow_pos step'))
    have := (Nat.pow_lt_pow_iff_right (by decide)).mp this
    omega
  obtain ⟨more, rfl⟩ := Nat.exists_eq_add_of_le finer
  exact ⟨count' * 2 ^ more, by ring⟩

/-- No other pattern holds a number of units that is nearer, and if another is as near the pattern is even.
The patterns go on beyond the finite ones as if the exponent had no bound. -/
def NearestPattern (q : ℚ) (m : Nat) : Prop :=
  ∀ other, other ≠ m →
    |q - unitsOf m| < |q - unitsOf other| ∨ |q - unitsOf m| = |q - unitsOf other| ∧ Even m

namespace Steps
variable {q : ℚ} {step count : Nat}

theorem nearer (steps : Steps q step count) {j : Nat} (different : j ≠ count) :
    |q - count * 2 ^ step| < |q - j * 2 ^ step| ∨
      |q - count * 2 ^ step| = |q - j * 2 ^ step| ∧ Even (ofSteps step count) := by
  have unit : (0 : ℚ) < 2 ^ step := by positivity
  rw [← Int.cast_natCast count, ← Int.cast_natCast j, abs_sub_mul unit, abs_sub_mul unit]
  refine (steps.nearest.nearer (Nat.cast_injective.ne different)).imp (mul_lt_mul_of_pos_right · unit)
    fun ⟨same, even⟩ => ⟨congrArg (· * 2 ^ step) same, ?_⟩
  exact (Even.mul_left (by decide) step).add ((Int.even_coe_nat count).mp even)

theorem nearestPattern (steps : Steps q step count) : NearestPattern q (ofSteps step count) := by
  have unit : (0 : ℚ) < 2 ^ step := by positivity
  intro other different
  rw [steps.units_eq]
  by_cases counted : ∃ j, unitsOf other = j * 2 ^ step
  · obtain ⟨j, counted⟩ := counted
    have unequal : j ≠ count := by
      rintro rfl
      refine different (unitsOf_strictMono.injective ?_)
      rw [counted, unitsOf_ofSteps steps.count_le steps.le_count]
      rfl
    rw [counted, Nat.cast_mul, Nat.cast_pow, Nat.cast_ofNat]
    exact steps.nearer unequal
  · -- between the finer number and the rational lies the least number that is counted in steps
    have finer : (unitsOf other : ℚ) < (2 ^ 52 : Nat) * 2 ^ step := by
      exact_mod_cast Nat.not_le.mp fun coarse => counted (exists_count coarse)
    have least : 2 ^ 52 ≤ q / 2 ^ step :=
      steps.normal.resolve_left fun one => counted ⟨unitsOf other, by rw [one, Nat.pow_zero, Nat.mul_one]⟩
    have above : ((2 ^ 52 : Nat) : ℚ) * 2 ^ step ≤ q := by
      rw [le_div_iff₀ unit] at least
      exact_mod_cast least
    have near : |q - count * 2 ^ step| ≤ |q - (2 ^ 52 : Nat) * 2 ^ step| := by
      by_cases same : 2 ^ 52 = count
      · rw [same]
      · exact (steps.nearer same).elim le_of_lt (·.1.le)
    rw [abs_of_nonneg (sub_nonneg.mpr above)] at near
    rw [abs_of_nonneg (sub_nonneg.mpr (finer.le.trans above))]
    exact .inl (near.trans_lt (sub_lt_sub_left finer q))

end Steps

/-! ## Decimals -/

theorem length_bounds {digits : Nat} (positive : 0 < digits) (exponent : ℤ) :
    (10 : ℚ) ^ (exponent + length digits - 1) ≤ digits * 10 ^ exponent ∧
      digits * 10 ^ exponent < (10 : ℚ) ^ (exponent + length digits) := by
  have unit : (0 : ℚ) < 10 ^ exponent := by positivity
  have split (k : ℤ) : (10 : ℚ) ^ (exponent + k) = 10 ^ k * 10 ^ exponent := by
    rw [add_comm, zpow_add₀ (by norm_num)]
  have fits : digits < 10 ^ length digits := (length_le_iff _).mp le_rfl
  have nonzero : 0 < length digits := by
    rw [length_eq_log positive]
    exact Nat.succ_pos _
  have full : 10 ^ (length digits - 1) ≤ digits :=
    Nat.not_lt.mp fun small => absurd ((length_le_iff _).mpr small) (by omega)
  have whole : (length digits : ℤ) - 1 = (length digits - 1 : Nat) := by omega
  rw [add_sub_assoc, split, split, whole, zpow_natCast, zpow_natCast]
  exact ⟨mul_le_mul_of_nonneg_right (by exact_mod_cast full) unit.le,
    mul_lt_mul_of_pos_right (by exact_mod_cast fits) unit⟩

theorem ratio_steps (digits : Nat) (exponent : ℤ) :
    ∃ step count, Steps (digits * 10 ^ exponent * unitsPerOne) step count ∧
      ∀ negative, (if 0 ≤ exponent then ofRatio negative (digits * Nat.pow 10 exponent.toNat) 1
        else ofRatio negative digits (Nat.pow 10 (-exponent).toNat)) =
          ofMagnitude negative (min infinityMagnitude (ofSteps step count)) := by
  split
  next le =>
    obtain ⟨step, count, steps, rounded⟩ :=
      roundMagnitude_steps (digits * Nat.pow 10 exponent.toNat) one_pos
    refine ⟨step, count, ?_, fun negative => congrArg (ofMagnitude negative) rounded⟩
    have power : exponent = (exponent.toNat : ℤ) := by omega
    rw [power, zpow_natCast]
    rwa [Nat.cast_one, div_one, Nat.cast_mul, Nat.pow_eq, Nat.cast_pow, Nat.cast_ofNat] at steps
  next lt =>
    obtain ⟨step, count, steps, rounded⟩ :=
      roundMagnitude_steps digits (Nat.pow_pos (show 0 < 10 by decide) : 0 < 10 ^ (-exponent).toNat)
    refine ⟨step, count, ?_, fun negative => congrArg (ofMagnitude negative) rounded⟩
    have power : exponent = -((-exponent).toNat : ℤ) := by omega
    rw [power, zpow_neg, zpow_natCast, ← div_eq_mul_inv]
    rwa [Nat.cast_pow, Nat.cast_ofNat] at steps

theorem two_pow_lt_ten_pow {k n : Nat} (positive : 0 < n) (least : k ≤ 3 * n) : 2 ^ k < 10 ^ n :=
  calc 2 ^ k ≤ 2 ^ (3 * n) := Nat.pow_le_pow_right (by decide) least
    _ = (2 ^ 3) ^ n := Nat.pow_mul 2 3 n
    _ < 10 ^ n := Nat.pow_lt_pow_left (by decide) positive.ne'

theorem tiny_units {digits : Nat} {exponent : ℤ} (tiny : digits = 0 ∨ exponent + length digits < -400) :
    digits * 10 ^ exponent * (unitsPerOne : ℚ) < 1 / 2 := by
  have units := cast_unitsPerOne_pos
  obtain rfl | positive := digits.eq_zero_or_pos
  · rw [Nat.cast_zero, zero_mul, zero_mul]
    norm_num
  have bound : (unitsPerOne * 2 : ℚ) < 10 ^ 400 := by
    have small : 2 ^ (1074 + 1) < 10 ^ 400 := two_pow_lt_ten_pow (by decide) (by decide)
    rw [cast_unitsPerOne, zpow_natCast, ← pow_succ]
    exact_mod_cast small
  calc digits * 10 ^ exponent * (unitsPerOne : ℚ)
      < 10 ^ (exponent + length digits) * unitsPerOne :=
        mul_lt_mul_of_pos_right (length_bounds positive exponent).2 units
    _ ≤ 10 ^ (-(400 : Nat) : ℤ) * unitsPerOne :=
        mul_le_mul_of_nonneg_right (zpow_le_zpow_right₀ (by norm_num) (by omega)) units.le
    _ < 1 / 2 := by
        rw [zpow_neg, zpow_natCast, inv_mul_eq_div, div_lt_div_iff₀ (by positivity) (by norm_num), one_mul]
        exact bound

theorem huge_units {digits : Nat} {exponent : ℤ} (positive : 0 < digits)
    (huge : 400 < exponent + length digits) :
    2 ^ 53 * 2 ^ 2045 ≤ digits * 10 ^ exponent * (unitsPerOne : ℚ) := by
  have bound : (2 ^ 53 * 2 ^ 2045 : ℚ) ≤ 10 ^ 400 * unitsPerOne := by
    have small : 2 ^ 1024 < 10 ^ 400 := two_pow_lt_ten_pow (by decide) (by decide)
    have split : (2 ^ 53 * 2 ^ 2045 : ℚ) = 2 ^ 1024 * unitsPerOne := by
      rw [cast_unitsPerOne, zpow_natCast, ← pow_add, ← pow_add]
    rw [split]
    exact mul_le_mul_of_nonneg_right (by exact_mod_cast small.le) cast_unitsPerOne_pos.le
  have enough : (10 : ℚ) ^ 400 ≤ digits * 10 ^ exponent := by
    rw [← zpow_natCast]
    exact (zpow_le_zpow_right₀ (by norm_num) (by omega)).trans (length_bounds positive exponent).1
  exact bound.trans (mul_le_mul_of_nonneg_right enough (Nat.cast_nonneg _))

/-- A decimal is rounded whatever its exponent is: where the number of digits alone settles the matter there
is less than half a unit, or more than all finite numbers hold. -/
theorem ofDecimal_steps (negative : Bool) (digits : Nat) (exponent : ℤ) :
    ∃ step count, Steps (digits * 10 ^ exponent * unitsPerOne) step count ∧
      ofDecimal negative digits exponent =
        ofMagnitude negative (min infinityMagnitude (ofSteps step count)) := by
  obtain ⟨step, count, steps, rounded⟩ := ratio_steps digits exponent
  refine ⟨step, count, steps, ?_⟩
  rw [ofDecimal]
  split
  next tiny =>
    rw [steps.eq_zero (tiny_units tiny), Nat.min_zero]
    rfl
  next notTiny =>
    have positive : 0 < digits := Nat.pos_of_ne_zero fun zero => notTiny (.inl zero)
    split
    next huge =>
      have infinite : infinityMagnitude ≤ ofSteps step count := steps.le_ofSteps (huge_units positive huge)
      rw [Nat.min_eq_left infinite]
      rfl
    next => exact rounded negative

theorem magnitude_ofMagnitude {m : Nat} (negative : Bool) (small : m < Nat.pow 2 63) :
    (ofMagnitude negative m).magnitude = m ∧ (ofMagnitude negative m).isNegative = negative := by
  have same : Nat.pow 2 63 = 2 ^ 63 := rfl
  rw [same] at small
  rw [magnitude, isNegative, ofMagnitude, UInt64.toNat_ofNat', same]
  cases negative <;> simp <;> omega

/-- The number is the rational of this sign rounded: of all patterns its own is nearest, and it is infinite
if that pattern is beyond the finite ones. -/
def Rounds (negative : Bool) (q : ℚ) (x : Binary64) : Prop :=
  x.isNegative = negative ∧
    ∃ m, NearestPattern (q * unitsPerOne) m ∧ x.magnitude = min infinityMagnitude m

/-- Decimals are read as the nearest numbers. -/
theorem ofDecimal_rounds (negative : Bool) (digits : Nat) (exponent : ℤ) :
    Rounds negative (digits * 10 ^ exponent) (ofDecimal negative digits exponent) := by
  obtain ⟨step, count, steps, rounded⟩ := ofDecimal_steps negative digits exponent
  have small : min infinityMagnitude (ofSteps step count) < Nat.pow 2 63 :=
    (Nat.min_le_left _ _).trans_lt (by decide)
  obtain ⟨magnitude, sign⟩ := magnitude_ofMagnitude negative small
  rw [rounded]
  exact ⟨sign, ofSteps step count, steps.nearestPattern, magnitude⟩

end SqlBridge.Binary64
