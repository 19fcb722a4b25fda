import Mathlib.Algebra.GroupWithZero.Nat
import Mathlib.Data.Rat.Floor
import ServingPreset.Number.Binary64

/-!
# Numbers without rounding

A quotient that is a whole number of 53 bits on the grid is rounded to itself
(`ofQuotient_of_exact`). Every natural number below `2 ^ 53` is one, so it can be held in
the format and taken back as its floor.
-/

namespace ServingPreset

namespace Binary64

variable {value numerator denominator significand shift : Nat}

theorem gridPerUnit_eq {places : Nat} (all : places = 1074) : gridPerUnit = 2 ^ places := by
  unfold gridPerUnit
  rw [← all]
  rfl

theorem gridPerUnit_pos : 0 < gridPerUnit := by
  unfold gridPerUnit
  generalize 1074 = places
  exact Nat.two_pow_pos places

/-! ### Codes with a full significand -/

/-- The leading bit of a full significand is carried into the exponent field. -/
theorem gridSteps_of_significand (full : 2 ^ 52 ≤ significand) (fits : significand < 2 ^ 53) :
    gridSteps ⟨shift * 2 ^ 52 + significand⟩ = significand * 2 ^ shift := by
  have exponent : (shift * 2 ^ 52 + significand) / 2 ^ 52 = shift + 1 := by omega
  have fraction : 2 ^ 52 + (shift * 2 ^ 52 + significand) % 2 ^ 52 = significand := by omega
  simp only [gridSteps, Nat.pow_eq, exponent, fraction, Nat.add_one_ne_zero, if_false,
    Nat.add_sub_cancel]

/-! ### Rounding -/

theorem roundQuotient_mul_left (positive : 0 < denominator) :
    roundQuotient (denominator * value) denominator = value := by
  simp [roundQuotient, positive]

/-- A quotient that needs no more than the bits of a significand is not rounded. -/
theorem ofQuotient_of_exact (positive : 0 < denominator)
    (lossless : numerator * gridPerUnit = denominator * (significand * 2 ^ shift))
    (full : 2 ^ 52 ≤ significand) (fits : significand < 2 ^ 53) :
    ofQuotient numerator denominator = ⟨shift * 2 ^ 52 + significand⟩ := by
  have quotient : numerator * gridPerUnit / denominator = significand * 2 ^ shift := by
    rw [lossless, Nat.mul_div_cancel_left _ positive]
  have bits : (significand * 2 ^ shift).log2 = 52 + shift := by
    have power : 0 < 2 ^ shift := Nat.two_pow_pos shift
    have nonzero : significand * 2 ^ shift ≠ 0 := by
      apply Nat.mul_ne_zero <;> omega
    rw [Nat.log2_eq_iff nonzero, Nat.add_right_comm, Nat.pow_add, Nat.pow_add]
    exact ⟨Nat.mul_le_mul_right _ full, Nat.mul_lt_mul_of_pos_right fits power⟩
  have scaled : numerator * gridPerUnit = denominator * 2 ^ shift * significand := by
    rw [lossless, Nat.mul_comm significand, Nat.mul_assoc]
  have rounded :
      roundQuotient (numerator * gridPerUnit) (denominator * 2 ^ shift) = significand := by
    rw [scaled, roundQuotient_mul_left (Nat.mul_pos positive (Nat.two_pow_pos shift))]
  simp only [ofQuotient, quotient, bits, Nat.add_sub_cancel_left, Nat.pow_eq, rounded]

/-! ### Exact values -/

/-- The floor of a number is that of its exact value. -/
theorem floor_toRat (number : Binary64) : ⌊number.toRat⌋ = (number.floor : Int) := by
  rw [toRat, floor, Rat.mkRat_eq_div, Int.cast_natCast, Rat.floor_natCast_div_natCast]
  exact (Int.natCast_ediv _ _).symm

theorem toRat_nonneg (number : Binary64) : 0 ≤ number.toRat := by
  rw [toRat, Rat.mkRat_eq_div]
  exact div_nonneg (Int.cast_nonneg (Int.natCast_nonneg _)) (Nat.cast_nonneg _)

/-! ### Natural numbers -/

/-- The code of a natural number that fits a significand. -/
theorem exists_code_ofNat (positive : 0 < value) (fits : value < 2 ^ 53) :
    ∃ significand shift, ofNat value = ⟨shift * 2 ^ 52 + significand⟩ ∧ 2 ^ 52 ≤ significand ∧
      significand < 2 ^ 53 ∧ significand * 2 ^ shift = value * gridPerUnit := by
  have nonzero : value ≠ 0 := Nat.ne_of_gt positive
  have bits : value.log2 ≤ 52 := Nat.le_of_lt_succ ((Nat.log2_lt nonzero).mpr fits)
  -- The significand is the number moved up to 53 bits, and the shift takes the move back.
  have full : 2 ^ 52 ≤ value * 2 ^ (52 - value.log2) := by
    have least := Nat.mul_le_mul_right (2 ^ (52 - value.log2)) (Nat.log2_self_le nonzero)
    rwa [← Nat.pow_add, Nat.add_sub_cancel' bits] at least
  have narrow : value * 2 ^ (52 - value.log2) < 2 ^ 53 := by
    have greatest := Nat.mul_lt_mul_of_pos_right (Nat.lt_log2_self (n := value))
      (Nat.two_pow_pos (52 - value.log2))
    rwa [← Nat.pow_add, show value.log2 + 1 + (52 - value.log2) = 53 by omega] at greatest
  have undone : value * 2 ^ (52 - value.log2) * 2 ^ (1022 + value.log2) =
      value * gridPerUnit := by
    have places : 52 - value.log2 + (1022 + value.log2) = 1074 := by omega
    rw [Nat.mul_assoc, ← Nat.pow_add, gridPerUnit_eq places]
  refine ⟨_, _, ofQuotient_of_exact Nat.one_pos ?_ full narrow, full, narrow, undone⟩
  rw [Nat.one_mul, undone]

theorem ofNat_zero : ofNat 0 = zero := by
  simp [ofNat, ofQuotient, roundQuotient, zero]

theorem gridSteps_ofNat (fits : value < 2 ^ 53) :
    (ofNat value).gridSteps = value * gridPerUnit := by
  rcases Nat.eq_zero_or_pos value with rfl | positive
  · rw [ofNat_zero, Nat.zero_mul]
    rfl
  · rcases exists_code_ofNat positive fits with ⟨significand, shift, code, full, narrow, steps⟩
    rw [code, gridSteps_of_significand full narrow, steps]

theorem floor_ofNat (fits : value < 2 ^ 53) : (ofNat value).floor = value := by
  rw [floor, gridSteps_ofNat fits, Nat.mul_div_cancel _ gridPerUnit_pos]

theorem ofDecimal_zero_exponent (value : Nat) : ofDecimal value 0 = ofNat value := by
  by_cases vanishes : value = 0
  · rw [vanishes, ofNat_zero]
    rfl
  · have near : ¬((value.log2 : Int) < -400) := by omega
    simp [ofDecimal, vanishes, near, ofNat]

end Binary64

end ServingPreset
