import SqlBridge.Proofs.Decimal.Rounding

/-! # Numbers near a decimal

A number less than half of the last place away from a decimal is rounded to this
decimal, as long as the two share the last place. They do not if the decimal is a power
of ten and the number is less: there the last place counts ten times less.
-/

namespace SqlBridge.Decimal

/-! ## The last place -/

theorem log_eq {q : ℚ} {e : ℤ} (low : 10 ^ e ≤ q) (high : q < 10 ^ (e + 1)) : Int.log 10 q = e := by
  have positive : 0 < q := lt_of_lt_of_le (by positivity) low
  apply le_antisymm
  · exact Int.lt_add_one_iff.mp ((Int.lt_zpow_iff_log_lt (by decide) positive).mp (by exact_mod_cast high))
  · exact (Int.zpow_le_iff_le_log (by decide) positive).mp (by exact_mod_cast low)

/-- What one in the last of the kept digits counts if one in the first counts a power of ten. -/
def place (e : ℤ) : ℚ := 10 ^ (e + 1 - precision)

theorem place_pos (e : ℤ) : 0 < place e := zpow_pos (by norm_num) _

theorem place_pred (e : ℤ) : place (e - 1) = place e / 10 := by
  rw [place, place, div_eq_mul_inv, ← zpow_sub_one₀ (by norm_num)]
  congr 1
  ring

theorem place_mono {e e' : ℤ} (le : e ≤ e') : place e ≤ place e' :=
  zpow_le_zpow_right₀ (by norm_num) (by omega)

theorem pow_eq_place (e : ℤ) : (10 : ℚ) ^ e = 10 ^ 13 * place e := by
  rw [place, ← zpow_natCast, ← zpow_add₀ (by norm_num)]
  congr 1
  simp only [precision]
  push_cast
  ring

theorem pow_succ_eq_place (e : ℤ) : (10 : ℚ) ^ (e + 1) = 10 ^ 14 * place e := by
  rw [zpow_add_one₀ (by norm_num), pow_eq_place]
  ring

/-- A number is rounded to a multiple of its last place that is less than half of that place away. -/
theorem rounded_of_lt {w : ℚ} {e m : ℤ} (low : 10 ^ e ≤ w) (high : w < 10 ^ (e + 1))
    (near : |w - m * place e| < place e / 2) : Rounded precision w (m * place e) := by
  have positive : 0 < w := lt_of_lt_of_le (by positivity) low
  have last : lastPlace precision w = place e := by
    rw [lastPlace, abs_of_pos positive, log_eq low high, place]
  rw [Rounded, last]
  refine ⟨m, .of_lt (lt_of_mul_lt_mul_right ?_ (place_pos e).le), rfl⟩
  rw [← abs_sub_mul (place_pos e)]
  linarith

namespace Rounded
variable {x d : ℚ}

theorem exists_count (positive : 0 < x) (rounded : Rounded precision x d) :
    ∃ m : ℤ, NearestEven (x / place (Int.log 10 x)) m ∧ d = m * place (Int.log 10 x) := by
  rwa [Rounded, lastPlace, abs_of_pos positive] at rounded

theorem error_le (positive : 0 < x) (rounded : Rounded precision x d) :
    |x - d| ≤ place (Int.log 10 x) / 2 := by
  obtain ⟨m, nearest, rfl⟩ := rounded.exists_count positive
  have unit := place_pos (Int.log 10 x)
  calc |x - m * place (Int.log 10 x)| = |x / place (Int.log 10 x) - m| * place (Int.log 10 x) :=
        abs_sub_mul unit x m
    _ ≤ 1 / 2 * place (Int.log 10 x) := mul_le_mul_of_nonneg_right nearest.1 unit.le
    _ = place (Int.log 10 x) / 2 := by ring

/-- Rounding reaches the next power of ten at most. -/
theorem decade (positive : 0 < x) (rounded : Rounded precision x d) :
    10 ^ Int.log 10 x ≤ d ∧ d ≤ 10 ^ (Int.log 10 x + 1) := by
  obtain ⟨m, nearest, rfl⟩ := rounded.exists_count positive
  obtain ⟨least, greatest⟩ := counted_bounds positive precision
  have low : ((10 ^ 13 : Nat) : ℤ) ≤ m := nearest.le_of_le (by exact_mod_cast least)
  have high : m ≤ ((10 ^ 14 : Nat) : ℤ) := nearest.le_of_lt (by exact_mod_cast greatest)
  rw [pow_eq_place, pow_succ_eq_place]
  exact ⟨mul_le_mul_of_nonneg_right (by exact_mod_cast low) (place_pos _).le,
    mul_le_mul_of_nonneg_right (by exact_mod_cast high) (place_pos _).le⟩

end Rounded

/-! ## Numbers near a decimal -/

namespace Scientific
variable {s t : Scientific}

theorem value_eq (s : Scientific) : s.value = s.digits * place s.exponent := rfl

theorem Full.eq_of_value (full : s.Full) (full' : t.Full) (same : s.value = t.value) : s = t := by
  have exponent : s.exponent = t.exponent := by
    rw [← log_eq full.decade.1 full.decade.2, same, log_eq full'.decade.1 full'.decade.2]
  have digits : s.digits = t.digits := by
    rw [value_eq, value_eq, exponent] at same
    exact_mod_cast mul_right_cancel₀ (place_pos t.exponent).ne' same
  cases s
  cases t
  congr

theorem Full.succ_digits_le (full : s.Full) : (s.digits : ℚ) + 1 ≤ 10 ^ 14 := by
  have greatest : s.digits + 1 ≤ 10 ^ 14 := full.2
  exact_mod_cast greatest

/-- Numbers near a decimal are rounded to it. Below a power of ten the last place counts ten times less, and
there they have to be that much nearer. -/
theorem Full.rounded_of_near (full : s.Full) {w : ℚ} (near : |w - s.value| < place s.exponent / 2)
    (nearer : w < 10 ^ s.exponent → |w - s.value| < place s.exponent / 20) :
    Rounded precision w s.value := by
  have unit := place_pos s.exponent
  by_cases below : w < 10 ^ s.exponent
  · have close := nearer below
    have low := (abs_lt.mp close).1
    rw [pow_eq_place] at below
    have fewest : s.digits = 10 ^ 13 := by
      have few : (s.digits : ℚ) * place s.exponent < (10 ^ 13 + 1) * place s.exponent := by
        rw [← value_eq]
        linarith
      have few : s.digits < 10 ^ 13 + 1 := by exact_mod_cast lt_of_mul_lt_mul_right few unit.le
      exact Nat.le_antisymm (Nat.lt_add_one_iff.mp few) full.1
    have tenth := place_pred s.exponent
    have value : s.value = (10 ^ 14 : ℤ) * place (s.exponent - 1) := by
      rw [value_eq, fewest, tenth]
      push_cast
      ring
    rw [value] at close low ⊢
    refine rounded_of_lt ?_ ?_ ?_
    · push_cast at low
      rw [pow_eq_place]
      linarith
    · rwa [sub_add_cancel, pow_eq_place]
    · linarith
  · refine rounded_of_lt (not_lt.mp below) ?_ near
    have most : ((s.digits : ℚ) + 1) * place s.exponent ≤ 10 ^ 14 * place s.exponent :=
      mul_le_mul_of_nonneg_right full.succ_digits_le unit.le
    have above := (abs_lt.mp near).2
    rw [value_eq] at above
    rw [pow_succ_eq_place]
    linarith

end Scientific

end SqlBridge.Decimal
