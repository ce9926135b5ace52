import SqlBridge.Decimal.Significant
import Mathlib.Algebra.Order.Field.Power
import Mathlib.Algebra.Order.Floor.Semifield
import Mathlib.Data.Int.Log
import Mathlib.Data.Rat.Floor
import Mathlib.Tactic.FieldSimp
import Mathlib.Tactic.Linarith
import Mathlib.Tactic.Positivity
import Mathlib.Tactic.Ring

/-! # Rounding to significant digits

A rational is rounded to a number of significant digits by counting it in units of
the last digit and taking the nearest whole number, a tie going to the even one.
Rounding can reach the next power of ten, and then the leading digit moves up by one
place. What is computed with quotients and remainders of natural numbers is that.
-/

namespace SqlBridge

/-! ## Whole numbers -/

/-- The whole number is nearest to the rational, and even if the rational lies half-way. -/
def NearestEven (q : ℚ) (m : ℤ) : Prop := |q - m| ≤ 1 / 2 ∧ (|q - m| = 1 / 2 → Even m)

namespace NearestEven
variable {q : ℚ} {m m' : ℤ}

theorem gap_le (q : ℚ) (m m' : ℤ) : |(m : ℚ) - m'| ≤ |q - m| + |q - m'| := by
  rw [abs_sub_comm q m]
  exact abs_sub_le _ _ _

/-- Different whole numbers are one apart at least, and so are their distances to any number together. -/
theorem one_le_of_ne (q : ℚ) (different : m ≠ m') : 1 ≤ |q - m| + |q - m'| := by
  have apart : (1 : ℚ) ≤ |(m : ℚ) - m'| := by
    exact_mod_cast Int.one_le_abs (sub_ne_zero.mpr different)
  exact apart.trans (gap_le q m m')

/-- Only one whole number is nearest: two of them would be neighbours, and both even. -/
theorem unique (nearest : NearestEven q m) (nearest' : NearestEven q m') : m = m' := by
  obtain ⟨near, even⟩ := nearest
  obtain ⟨near', even'⟩ := nearest'
  by_contra different
  have together := one_le_of_ne q different
  have half : |q - m| = 1 / 2 := by linarith
  have half' : |q - m'| = 1 / 2 := by linarith
  have apart : |(m : ℚ) - m'| ≤ 1 := by
    have through := gap_le q m m'
    linarith
  have one : |m - m'| = 1 :=
    le_antisymm (by exact_mod_cast apart) (Int.one_le_abs (sub_ne_zero.mpr different))
  have evenGap : Even |m - m'| := even_abs.mpr ((even half).sub (even' half'))
  rw [one] at evenGap
  exact absurd evenGap (by decide)

/-- Any other whole number is farther away, or as far and then the nearest one is even. -/
theorem nearer (nearest : NearestEven q m) (other : m' ≠ m) :
    |q - m| < |q - m'| ∨ |q - m| = |q - m'| ∧ Even m := by
  have together := one_le_of_ne q other
  obtain less | half := nearest.1.lt_or_eq
  · exact .inl (by linarith)
  · have near : |q - m| ≤ |q - m'| := by linarith
    exact near.lt_or_eq.imp_right fun same => ⟨same, nearest.2 half⟩

theorem of_lt (near : |q - m| < 1 / 2) : NearestEven q m := ⟨near.le, fun half => absurd half near.ne⟩

theorem neg (nearest : NearestEven q m) : NearestEven (-q) (-m) := by
  have same : |-q - ((-m : ℤ) : ℚ)| = |q - m| := by
    rw [Int.cast_neg, neg_sub_neg, abs_sub_comm]
  rw [NearestEven, same, even_neg]
  exact nearest

theorem le_of_le {k : ℤ} (nearest : NearestEven q m) (le : (k : ℚ) ≤ q) : k ≤ m := by
  have above := (abs_le.mp nearest.1).2
  have : (k : ℚ) < m + 1 := by linarith
  exact Int.lt_add_one_iff.mp (by exact_mod_cast this)

theorem le_of_lt {k : ℤ} (nearest : NearestEven q m) (lt : q < k) : m ≤ k := by
  have below := (abs_le.mp nearest.1).1
  have : (m : ℚ) < k + 1 := by linarith
  exact Int.lt_add_one_iff.mp (by exact_mod_cast this)

end NearestEven

theorem abs_sub_mul {u : ℚ} (positive : 0 < u) (x y : ℚ) : |x - y * u| = |x / u - y| * u := by
  rw [← abs_of_pos positive, ← abs_mul, abs_of_pos positive, sub_mul, div_mul_cancel₀ _ positive.ne']

/-- The quotient and the remainder of natural numbers round their ratio. -/
theorem roundDivEven_nearest (n : Nat) {d : Nat} (positive : 0 < d) :
    NearestEven (n / d : ℚ) (roundDivEven n d) := by
  have dpos : (0 : ℚ) < d := by exact_mod_cast positive
  set q := n / d with hq
  set r := n % d with hr
  have ratio : (n / d : ℚ) = q + r / d := by
    have whole : (n : ℚ) = d * q + r := by exact_mod_cast (Nat.div_add_mod n d).symm
    rw [whole]
    field_simp
  have down (le : 2 * r ≤ d) : |(n / d : ℚ) - (q : ℤ)| = r / d := by
    rw [ratio, Int.cast_natCast, add_sub_cancel_left, abs_of_nonneg (by positivity)]
  have up : |(n / d : ℚ) - ((q + 1 : Nat) : ℤ)| = 1 - r / d := by
    have below : (r : ℚ) / d ≤ 1 := by
      rw [div_le_one dpos]
      exact_mod_cast (Nat.mod_lt n positive).le
    rw [ratio, Int.cast_natCast, Nat.cast_add_one, add_sub_add_left_eq_sub, abs_sub_comm,
      abs_of_nonneg (by linarith)]
  simp only [roundDivEven, ← hq, ← hr]
  split
  next lt =>
    have less : (r : ℚ) / d < 1 / 2 := by
      rw [div_lt_iff₀ dpos]
      have : (2 * r : ℚ) < d := by exact_mod_cast lt
      linarith
    rw [NearestEven, down lt.le]
    exact ⟨less.le, fun half => absurd half less.ne⟩
  next notLess =>
    split
    next lt =>
      have more : (1 / 2 : ℚ) < r / d := by
        rw [lt_div_iff₀ dpos]
        have : (d : ℚ) < 2 * r := by exact_mod_cast lt
        linarith
      rw [NearestEven, up]
      exact ⟨by linarith, fun half => absurd half (by linarith)⟩
    next notMore =>
      have tie : (r : ℚ) / d = 1 / 2 := by
        rw [div_eq_iff dpos.ne']
        have : (d : ℚ) = 2 * r := by exact_mod_cast (show d = 2 * r by omega)
        linarith
      split
      next even =>
        rw [NearestEven, down (by omega), tie]
        exact ⟨le_rfl, fun _ => (Int.even_coe_nat q).mpr (Nat.even_iff.mpr even)⟩
      next odd =>
        rw [NearestEven, up, tie]
        exact ⟨by norm_num, fun _ => (Int.even_coe_nat _).mpr (Nat.even_iff.mpr (by omega))⟩

/-! ## The leading digit -/

namespace Decimal

theorem length_le_iff {n : Nat} (k : Nat) : length n ≤ k ↔ n < 10 ^ k := by
  induction k generalizing n with
  | zero =>
    rw [length]
    split <;> omega
  | succ k ih =>
    rw [length]
    split
    next zero => simp [zero]
    next => rw [Nat.add_le_add_iff_right, ih, Nat.pow_succ, Nat.div_lt_iff_lt_mul (by decide)]

theorem length_eq_log {n : Nat} (positive : 0 < n) : length n = Nat.log 10 n + 1 := by
  apply eq_of_forall_ge_iff
  intro k
  rw [length_le_iff, Nat.succ_le_iff, Nat.log_lt_iff_lt_pow (by decide) positive.ne']

theorem length_eq_clog (n : Nat) : length n = Nat.clog 10 (n + 1) := by
  apply eq_of_forall_ge_iff
  intro k
  rw [length_le_iff, Nat.clog_le_iff_le_pow (by decide), Nat.succ_le_iff]

theorem ceil_div {num den : Nat} (nonzero : 0 < num) (positive : 0 < den) :
    ⌈(den / num : ℚ)⌉₊ = (den - 1) / num + 1 := by
  have npos : (0 : ℚ) < num := by exact_mod_cast nonzero
  rw [Nat.ceil_eq_iff (Nat.succ_ne_zero _), Nat.succ_sub_one, lt_div_iff₀ npos, div_le_iff₀ npos]
  constructor
  · have : (den - 1) / num * num < den :=
      (Nat.div_mul_le_self _ _).trans_lt (Nat.sub_lt positive one_pos)
    exact_mod_cast this
  · have : den ≤ ((den - 1) / num + 1) * num := by
      have := Nat.lt_mul_div_succ (den - 1) nonzero
      rw [Nat.mul_comm] at this
      omega
    exact_mod_cast this

/-- The exponent of the leading digit is the greatest power of ten that is not above the ratio. -/
theorem leadingExponent_eq_log {num den : Nat} (nonzero : 0 < num) (positive : 0 < den) :
    leadingExponent num den = Int.log 10 (num / den : ℚ) := by
  have dpos : (0 : ℚ) < den := by exact_mod_cast positive
  rw [leadingExponent]
  split
  next le =>
    have one : (1 : ℚ) ≤ num / den := by
      rw [one_le_div dpos]
      exact_mod_cast le
    rw [Int.log_of_one_le_right 10 one, Nat.floor_div_eq_div, length_eq_log (Nat.div_pos le positive)]
    omega
  next lt =>
    have lt : num < den := Nat.not_le.mp lt
    have one : (num / den : ℚ) ≤ 1 := by
      rw [div_le_one dpos]
      exact_mod_cast lt.le
    rw [Int.log_of_right_le_one 10 one, inv_div, ceil_div nonzero positive, length_eq_clog]

/-! ## Significant digits -/

/-- What one in the last of the significant digits counts. -/
def lastPlace (places : Nat) (x : ℚ) : ℚ := 10 ^ (Int.log 10 |x| + 1 - places)

/-- The decimal is the number rounded to the significant digits: the nearest multiple of what the last of
them counts, and a tie goes to an even last digit. -/
def Rounded (places : Nat) (x d : ℚ) : Prop :=
  ∃ m : ℤ, NearestEven (x / lastPlace places x) m ∧ d = m * lastPlace places x

namespace Rounded
variable {places : Nat} {x d d' : ℚ}

theorem unique (rounded : Rounded places x d) (rounded' : Rounded places x d') : d = d' := by
  obtain ⟨m, nearest, rfl⟩ := rounded
  obtain ⟨m', nearest', rfl⟩ := rounded'
  rw [nearest.unique nearest']

theorem eq_zero (rounded : Rounded places 0 d) : d = 0 := by
  obtain ⟨m, nearest, rfl⟩ := rounded
  rw [zero_div] at nearest
  have none : m = 0 := nearest.unique (.of_lt (by norm_num))
  rw [none, Int.cast_zero, zero_mul]

theorem neg (rounded : Rounded places x d) : Rounded places (-x) (-d) := by
  obtain ⟨m, nearest, rfl⟩ := rounded
  refine ⟨-m, ?_, ?_⟩
  · rw [lastPlace, abs_neg, neg_div]
    exact nearest.neg
  · rw [lastPlace, lastPlace, abs_neg, Int.cast_neg, neg_mul]

end Rounded

theorem roundAt_nearest (num : Nat) {den : Nat} (positive : 0 < den) (exponent : Int) :
    NearestEven (num / den / 10 ^ exponent : ℚ) (roundAt num den exponent) := by
  rw [roundAt]
  split
  next le =>
    have scaled : (num / den / 10 ^ exponent : ℚ) = (num * 10 ^ (-exponent).toNat : Nat) / den := by
      have : exponent = -((-exponent).toNat : Int) := by omega
      conv_lhs => rw [this]
      rw [zpow_neg, zpow_natCast, div_inv_eq_mul]
      push_cast
      ring
    rw [scaled]
    exact roundDivEven_nearest _ positive
  next gt =>
    have scaled : (num / den / 10 ^ exponent : ℚ) = num / (den * 10 ^ exponent.toNat : Nat) := by
      have : exponent = (exponent.toNat : Int) := by omega
      conv_lhs => rw [this]
      rw [zpow_natCast, div_div]
      push_cast
      rfl
    rw [scaled]
    exact roundDivEven_nearest _ (Nat.mul_pos positive (Nat.pow_pos (by decide)))

def Scientific.value (s : Scientific) : ℚ := s.digits * 10 ^ (s.exponent + 1 - precision)

def Scientific.Full (s : Scientific) : Prop :=
  10 ^ (precision - 1) ≤ s.digits ∧ s.digits < 10 ^ precision

/-- Counted in the last place a positive number has as many digits as are kept. -/
theorem counted_bounds {q : ℚ} (positive : 0 < q) (places : Nat) :
    (10 : ℚ) ^ ((places : Int) - 1) ≤ q / 10 ^ (Int.log 10 q + 1 - places) ∧
      q / 10 ^ (Int.log 10 q + 1 - places) < 10 ^ (places : Int) := by
  have unit : (0 : ℚ) < 10 ^ (Int.log 10 q + 1 - places) := by positivity
  rw [le_div_iff₀ unit, div_lt_iff₀ unit, ← zpow_add₀ (by norm_num), ← zpow_add₀ (by norm_num)]
  have below := Int.zpow_log_le_self (show 1 < 10 by decide) positive
  have above := Int.lt_zpow_succ_log_self (show 1 < 10 by decide) q
  push_cast at below above
  constructor
  · rwa [show (places : Int) - 1 + (Int.log 10 q + 1 - places) = Int.log 10 q by ring]
  · rwa [show (places : Int) + (Int.log 10 q + 1 - places) = Int.log 10 q + 1 by ring]

theorem Scientific.Full.decade {s : Scientific} (full : s.Full) :
    10 ^ s.exponent ≤ s.value ∧ s.value < 10 ^ (s.exponent + 1) := by
  obtain ⟨least, greatest⟩ := full
  have unit : (0 : ℚ) < 10 ^ (s.exponent + 1 - precision) := by positivity
  have low : (10 : ℚ) ^ ((precision - 1 : Nat) : Int) ≤ s.digits := by exact_mod_cast least
  have high : (s.digits : ℚ) < 10 ^ (precision : Int) := by exact_mod_cast greatest
  constructor
  · calc (10 : ℚ) ^ s.exponent
        = 10 ^ ((precision - 1 : Nat) : Int) * 10 ^ (s.exponent + 1 - precision) := by
          rw [← zpow_add₀ (by norm_num)]
          congr 1
          simp only [precision]
          omega
      _ ≤ s.value := mul_le_mul_of_nonneg_right low unit.le
  · calc s.value < 10 ^ (precision : Int) * 10 ^ (s.exponent + 1 - precision) :=
          mul_lt_mul_of_pos_right high unit
      _ = 10 ^ (s.exponent + 1) := by
          rw [← zpow_add₀ (by norm_num)]
          congr 1
          ring

/-- A positive ratio is rounded to the digits that are kept. Digits that are carried all the way make one
more, which moves the exponent. -/
theorem Scientific.ofRatio_rounded {num den : Nat} (nonzero : 0 < num) (positive : 0 < den) :
    (ofRatio num den).Full ∧ Rounded precision (num / den) (ofRatio num den).value := by
  have qpos : (0 : ℚ) < num / den := div_pos (by exact_mod_cast nonzero) (by exact_mod_cast positive)
  set e := Int.log 10 (num / den : ℚ) with he
  set m := roundAt num den (e + 1 - precision) with hm
  have nearest : NearestEven (num / den / 10 ^ (e + 1 - precision) : ℚ) m :=
    roundAt_nearest num positive _
  obtain ⟨least, greatest⟩ := counted_bounds qpos precision
  have low : 10 ^ (precision - 1) ≤ m := by
    have := nearest.le_of_le (k := (10 ^ (precision - 1) : Nat)) (by exact_mod_cast least)
    exact_mod_cast this
  have high : m ≤ 10 ^ precision := by
    have := nearest.le_of_lt (k := (10 ^ precision : Nat)) (by exact_mod_cast greatest)
    exact_mod_cast this
  have counted : leadingExponent num den - (precision - 1) = e + 1 - precision := by
    rw [leadingExponent_eq_log nonzero positive]
    ring
  have rounded : Rounded precision (num / den) (m * 10 ^ (e + 1 - precision)) := by
    refine ⟨m, ?_, ?_⟩ <;> rw [lastPlace, abs_of_pos qpos]
    · exact nearest
    · rfl
  rw [ofRatio, counted, ← hm, leadingExponent_eq_log nonzero positive, ← he]
  split
  next carried =>
    have fewer : 10 ^ (precision - 1) < 10 ^ precision := by decide
    refine ⟨⟨le_rfl, fewer⟩, ?_⟩
    -- ten times fewer of a unit that is ten times greater: the same number
    convert rounded using 1
    rw [Scientific.value, carried]
    have place : e + 1 + 1 - (precision : Int) = e + 1 - precision + 1 := by ring
    rw [place, zpow_add_one₀ (by norm_num)]
    norm_num [precision]
    ring
  next notCarried => exact ⟨⟨low, lt_of_le_of_ne high notCarried⟩, rounded⟩

end Decimal
end SqlBridge
