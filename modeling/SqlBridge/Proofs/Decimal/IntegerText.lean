import SqlBridge.Proofs.Decimal.Canonical
import SqlBridge.Proofs.Decimal.NearestBinary
import SqlBridge.Proofs.Decimal.Reading

/-! # Reading written integers

The text of an integer is read leniently as that integer, and as a float it is the number
that the integer itself is converted to. One way rounds a decimal and the other a
ratio, and they agree whatever the size of the integer is.
-/

namespace SqlBridge.Decimal

theorem intDigits_visible (i : Int) : ∀ c ∈ intDigits i, Text.isBlank c = false := by
  have visible (c : Char) (there : c ∈ digits i.natAbs) : Text.isBlank c = false :=
    isBlank_digit ((digits_spec i.natAbs).1 c there)
  rw [intDigits]
  split
  · intro c there
    obtain rfl | there := List.mem_cons.mp there
    · rfl
    · exact visible c there
  · exact visible

theorem trim_intDigits (i : Int) : Text.trim (intDigits i) = intDigits i :=
  trim_eq_self (intDigits_visible i)

/-- A digit is not taken for a sign. -/
theorem readInt_of_isDigits {cs : List Char} (digits : isDigits cs) :
    readInt cs = inInt64 (ofDigits cs) := by
  rw [readInt.eq_def]
  split
  next => exact absurd ((isDigits_iff.mp digits).2 '-' List.mem_cons_self) (by decide)
  next => exact absurd ((isDigits_iff.mp digits).2 '+' List.mem_cons_self) (by decide)
  next => rw [if_pos digits]

theorem readInt_intDigits {i : Int} (low : minInt64 ≤ i) (high : i ≤ maxInt64) :
    readInt (intDigits i) = some i := by
  have read := (digits_spec i.natAbs).2.2.1
  have inRange : inInt64 i = some i := by rw [inInt64, if_pos ⟨low, high⟩]
  rw [intDigits]
  split
  · have value : -(ofDigits (digits i.natAbs) : Int) = i := by omega
    rw [readInt, if_pos (isDigits_digits _), value, inRange]
  · have value : (ofDigits (digits i.natAbs) : Int) = i := by omega
    rw [readInt_of_isDigits (isDigits_digits _), value, inRange]

/-! ## As floats -/

theorem digits_head (n : Nat) : ∃ first rest, digits n = first :: rest ∧ first.isDigit := by
  obtain ⟨digit, nonempty, -⟩ := digits_spec n
  obtain ⟨first, rest, written⟩ := List.exists_cons_of_ne_nil nonempty
  exact ⟨first, rest, written, digit first (by simp [written])⟩

theorem readUnsigned_digits (negative : Bool) (n : Nat) :
    readUnsigned negative (digits n) = some (.ofDecimal negative n 0) := by
  obtain ⟨first, rest, written, digit⟩ := digits_head n
  have whole := readFixed_whole (isDigits_digits n)
  rw [written] at whole
  rw [written, readUnsigned_decimal digit whole rfl, ← written, (digits_spec n).2.2.1]
  rfl

end SqlBridge.Decimal

namespace SqlBridge.Binary64
open Decimal

/-- A decimal without an exponent is rounded as an integer, also where its length alone makes it infinite. -/
theorem ofDecimal_whole (negative : Bool) (n : Nat) : ofDecimal negative n 0 = ofRatio negative n 1 := by
  rw [ofDecimal]
  split
  next tiny =>
    obtain rfl : n = 0 := tiny.resolve_right (by omega)
    have nothing : roundMagnitude 0 1 = 0 := by
      rw [roundMagnitude, Nat.zero_mul, Nat.zero_div, Nat.log2_zero]
      simp [roundDivEven]
    rw [ofRatio, nothing, zero]
  next notTiny =>
    split
    next huge =>
      have positive : 0 < n := Nat.pos_of_ne_zero fun zero => notTiny (.inl zero)
      obtain ⟨step, count, steps, rounded⟩ := roundMagnitude_steps n one_pos
      have large := huge_units positive huge
      rw [zpow_zero, mul_one] at large
      rw [Nat.cast_one, div_one] at steps
      have infinite : infinityMagnitude ≤ ofSteps step count := steps.le_ofSteps large
      rw [ofRatio, rounded, Nat.min_eq_left infinite]
      rfl
    next => rw [if_pos (le_refl 0), Int.toNat_zero, Nat.pow_eq, Nat.pow_zero, Nat.mul_one]

theorem ofInt_rounds (i : Int) : Rounds (i < 0) i.natAbs (ofInt i) := by
  have rounds := ofDecimal_rounds (decide (i < 0)) i.natAbs 0
  rwa [ofDecimal_whole, zpow_zero, mul_one] at rounds

theorem ofInt_isFinite {i : Int} (low : minInt64 ≤ i) (high : i ≤ maxInt64) : (ofInt i).isFinite = true := by
  obtain ⟨step, count, steps, rounded⟩ := roundMagnitude_steps i.natAbs one_pos
  have small : (i.natAbs * unitsPerOne : ℚ) < (2 ^ 53 - 1 : Nat) * 2 ^ 2045 := by
    have bound : i.natAbs ≤ 2 ^ 63 := by
      rw [minInt64] at low
      rw [maxInt64] at high
      omega
    calc (i.natAbs * unitsPerOne : ℚ) ≤ 2 ^ 63 * unitsPerOne :=
          mul_le_mul_of_nonneg_right (by exact_mod_cast bound) cast_unitsPerOne_pos.le
      _ = 2 ^ (63 + 1074) := by rw [cast_unitsPerOne, zpow_natCast, pow_add]
      _ ≤ 2 ^ 2045 := pow_le_pow_right₀ one_le_two (by decide)
      _ < (2 ^ 53 - 1 : Nat) * 2 ^ 2045 := lt_mul_of_one_lt_left (pow_pos two_pos 2045) (by norm_num)
  rw [Nat.cast_one, div_one] at steps
  have below : ofSteps step count < infinityMagnitude :=
    steps.ofSteps_lt (by rwa [Nat.cast_mul, Nat.cast_pow, Nat.cast_ofNat])
  have least : min infinityMagnitude (ofSteps step count) < infinityMagnitude := by omega
  rw [isFinite, ofInt, ofRatio, rounded, (magnitude_ofMagnitude _ (least.trans (by decide))).1]
  exact decide_eq_true least

end SqlBridge.Binary64

namespace SqlBridge.Decimal

/-- The text of an integer of any size is read as the number that the integer is converted to. -/
theorem readFloat_intDigits (i : Int) : readFloat (intDigits i) = some (.ofInt i) := by
  rw [intDigits, Binary64.ofInt]
  split
  next negative =>
    rw [readFloat, readUnsigned_digits, Binary64.ofDecimal_whole, decide_eq_true negative]
  next positive =>
    obtain ⟨first, rest, written, digit⟩ := digits_head i.natAbs
    rw [written, readFloat_of_isDigit digit, ← written, readUnsigned_digits, Binary64.ofDecimal_whole,
      decide_eq_false positive]

end SqlBridge.Decimal
