import Mathlib.Data.Nat.Cast.Order.Field
import Mathlib.Tactic.Linarith
import ServingPreset.Proofs.Number.Binary64

/-!
# The grid of the format

The numbers of the format lie on the grid of the least positive one, closely at first and at
twice the distance behind each power of two. A greater code is a greater number
(`toRat_strictMono`), and a number of at least `2 ^ (52 + shift)` steps is a multiple of
`2 ^ shift` steps (`gridSteps_lt_or_dvd`). Below `2 ^ 64` the last number is therefore
`2 ^ 64 - 2 ^ 11`, with no other number in between.
-/

namespace ServingPreset

namespace Binary64

variable {number : Binary64} {significand shift : Nat}

/-- Numbers of at least the given size are all multiples of one power of two. -/
theorem gridSteps_lt_or_dvd (number : Binary64) (shift : Nat) :
    number.gridSteps < 2 ^ (52 + shift) ∨ 2 ^ shift ∣ number.gridSteps := by
  have bounded : number.code % 2 ^ 52 < 2 ^ 52 := Nat.mod_lt _ (Nat.two_pow_pos 52)
  simp only [gridSteps, Nat.pow_eq]
  generalize number.code % 2 ^ 52 = fraction at bounded ⊢
  generalize number.code / 2 ^ 52 = exponent
  split
  · left
    exact Nat.lt_of_lt_of_le bounded (Nat.pow_le_pow_right Nat.two_pos (Nat.le_add_right 52 shift))
  · rcases Nat.lt_or_ge (exponent - 1) shift with lower | higher
    · left
      have bits : 53 + (exponent - 1) ≤ 52 + shift := by omega
      calc
        (2 ^ 52 + fraction) * 2 ^ (exponent - 1) < 2 ^ 53 * 2 ^ (exponent - 1) :=
          Nat.mul_lt_mul_of_pos_right (by omega) (Nat.two_pow_pos _)
        _ = 2 ^ (53 + (exponent - 1)) := (Nat.pow_add _ _ _).symm
        _ ≤ 2 ^ (52 + shift) := Nat.pow_le_pow_right Nat.two_pos bits
    · right
      exact Dvd.dvd.mul_left (Nat.pow_dvd_pow 2 higher) _

theorem gridSteps_lt_succ (code : Nat) : gridSteps ⟨code⟩ < gridSteps ⟨code + 1⟩ := by
  simp only [gridSteps, Nat.pow_eq]
  rcases Nat.lt_or_ge (code % 2 ^ 52 + 1) (2 ^ 52) with within | carries
  · have exponent : (code + 1) / 2 ^ 52 = code / 2 ^ 52 := by omega
    have fraction : (code + 1) % 2 ^ 52 = code % 2 ^ 52 + 1 := by omega
    rw [exponent, fraction]
    split
    · exact Nat.lt_succ_self _
    · exact Nat.mul_lt_mul_of_pos_right (by omega) (Nat.two_pow_pos _)
  · -- The fraction is exhausted, and the next number is the first one of the next exponent.
    have exponent : (code + 1) / 2 ^ 52 = code / 2 ^ 52 + 1 := by omega
    have fraction : (code + 1) % 2 ^ 52 = 0 := by omega
    have last : code % 2 ^ 52 = 2 ^ 52 - 1 := by omega
    rw [exponent, fraction, last, if_neg (Nat.succ_ne_zero _), Nat.add_sub_cancel]
    generalize code / 2 ^ 52 = place
    cases place with
    | zero => decide
    | succ place =>
        have doubled : 2 ^ (place + 1) = 2 * 2 ^ place := Nat.pow_succ'
        rw [if_neg (Nat.succ_ne_zero _), Nat.add_sub_cancel, doubled, ← Nat.mul_assoc]
        exact Nat.mul_lt_mul_of_pos_right (by decide) (Nat.two_pow_pos _)

/-- A significand that was rounded up to the next power of two is one of the next exponent. -/
theorem gridSteps_of_rounded (full : shift = 0 ∨ 2 ^ 52 ≤ significand)
    (fits : significand ≤ 2 ^ 53) :
    gridSteps ⟨shift * 2 ^ 52 + significand⟩ = significand * 2 ^ shift := by
  rcases Nat.lt_or_eq_of_le fits with narrow | rfl
  · rcases Nat.lt_or_ge significand (2 ^ 52) with small | large
    · have unshifted : shift = 0 := full.resolve_right (Nat.not_le.mpr small)
      subst unshifted
      have exponent : significand / 2 ^ 52 = 0 := Nat.div_eq_of_lt small
      have fraction : significand % 2 ^ 52 = significand := Nat.mod_eq_of_lt small
      simp only [gridSteps, Nat.pow_eq, Nat.zero_mul, Nat.zero_add, exponent, fraction, if_true,
        Nat.pow_zero, Nat.mul_one]
    · exact gridSteps_of_significand large narrow
  · have carried : shift * 2 ^ 52 + 2 ^ 53 = (shift + 1) * 2 ^ 52 + 2 ^ 52 := by omega
    rw [carried, gridSteps_of_significand (Nat.le_refl _) (by decide), Nat.pow_succ]
    omega

/-! ### Values on the grid -/

theorem gridPerUnit_cast_pos : (0 : ℚ) < gridPerUnit := by
  exact_mod_cast gridPerUnit_pos

theorem toRat_eq (number : Binary64) : number.toRat = number.gridSteps / gridPerUnit := by
  rw [toRat, Rat.mkRat_eq_div, Int.cast_natCast]

theorem abs_toRat_sub (number : Binary64) (value : ℚ) :
    |number.toRat - value| = |(number.gridSteps : ℚ) - value * gridPerUnit| / gridPerUnit := by
  have scale := gridPerUnit_cast_pos
  have same : number.toRat - value =
      ((number.gridSteps : ℚ) - value * gridPerUnit) / gridPerUnit := by
    rw [sub_div, mul_div_cancel_right₀ _ scale.ne', toRat_eq]
  rw [same, abs_div, abs_of_pos scale]

/-- A greater code is a greater number. -/
theorem toRat_strictMono : StrictMono fun code => toRat ⟨code⟩ := by
  intro code other greater
  have steps : gridSteps ⟨code⟩ < gridSteps ⟨other⟩ :=
    strictMono_nat_of_lt_succ gridSteps_lt_succ greater
  simp only [toRat_eq]
  exact div_lt_div_of_pos_right (Nat.cast_lt.mpr steps) gridPerUnit_cast_pos

theorem toRat_injective : Function.Injective toRat :=
  fun _ _ same => congrArg mk (toRat_strictMono.injective same)

theorem toRat_zero : toRat zero = 0 := by
  have none : gridSteps zero = 0 := by decide
  rw [toRat_eq, none, Nat.cast_zero, zero_div]

theorem toRat_eq_zero_iff : number.toRat = 0 ↔ number = zero :=
  toRat_injective.eq_iff' toRat_zero

/-! ### Floors -/

theorem natFloor_toRat (number : Binary64) : ⌊number.toRat⌋₊ = number.floor := by
  rw [← Int.floor_toNat, floor_toRat, Int.toNat_natCast]

theorem floor_lt_two_pow_iff {places : Nat} :
    number.floor < 2 ^ places ↔ number.toRat < 2 ^ places := by
  rw [← natFloor_toRat, Nat.floor_lt number.toRat_nonneg, Nat.cast_pow, Nat.cast_ofNat]

/-- The spacing of the numbers below a power of two keeps their floors away from it. -/
theorem floor_add_le_of_lt (places : Nat) (below : number.floor < 2 ^ (53 + places)) :
    number.floor + 2 ^ places ≤ 2 ^ (53 + places) := by
  obtain ⟨grid, all⟩ : ∃ grid, grid = 1074 := ⟨1074, rfl⟩
  have place := Nat.two_pow_pos places
  rw [floor, gridPerUnit_eq all] at below ⊢
  rw [Nat.pow_add] at below ⊢
  rcases gridSteps_lt_or_dvd number (places + grid) with near | ⟨whole, multiple⟩
  · rw [← Nat.add_assoc, Nat.pow_add, Nat.pow_add] at near
    have half := Nat.div_lt_of_lt_mul (Nat.mul_comm _ _ ▸ near)
    omega
  · have scale := Nat.two_pow_pos grid
    rw [multiple, Nat.pow_add, Nat.mul_right_comm, Nat.mul_div_cancel _ scale, Nat.mul_comm]
      at below ⊢
    have next : whole + 1 ≤ 2 ^ 53 := Nat.lt_of_mul_lt_mul_right below
    calc
      whole * 2 ^ places + 2 ^ places = (whole + 1) * 2 ^ places := (Nat.succ_mul _ _).symm
      _ ≤ 2 ^ 53 * 2 ^ places := Nat.mul_le_mul_right _ next

end Binary64

end ServingPreset
