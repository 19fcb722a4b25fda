import Mathlib.Tactic.Ring
import ServingPreset.Proofs.Number.Grid

/-!
# Correct rounding

A number is the correctly rounded one of an exact value (`IsRounded`) if no finite number is
nearer, the even code being taken of two equally near ones, and if it is infinite exactly from
half a place behind the greatest number on. No value has two such finite numbers
(`IsRounded.unique`).

Quotients are rounded on the grid. Their steps are cut to the 53 bits of a significand, which is
the nearest whole number in units of its place (`IsSignificand`). Numbers outside the multiples
of that place are too small to be nearer, so the significand makes the nearest number of all.
Decimal numbers are quotients, except far outside the range of the format, where their size
alone decides.
-/

namespace ServingPreset

/-! ### Nearest whole numbers -/

/-- A whole number at most half from a quotient, and even if it is half from it. -/
structure IsNearestWhole (quotient : ℚ) (whole : Nat) : Prop where
  near : |(whole : ℚ) - quotient| ≤ 1 / 2
  even : |(whole : ℚ) - quotient| = 1 / 2 → whole % 2 = 0

namespace IsNearestWhole

variable {quotient : ℚ} {whole : Nat}

theorem one_le_add (quotient : ℚ) {other : Nat} (apart : other ≠ whole) :
    1 ≤ |(other : ℚ) - quotient| + |(whole : ℚ) - quotient| := by
  have distinct : (other : ℤ) - whole ≠ 0 := by omega
  have unit : (1 : ℚ) ≤ |(other : ℚ) - whole| := by exact_mod_cast Int.one_le_abs distinct
  have triangle := abs_sub_le (other : ℚ) quotient whole
  rw [abs_sub_comm quotient] at triangle
  linarith

/-- No whole number is nearer. -/
theorem le (nearest : IsNearestWhole quotient whole) (other : Nat) :
    |(whole : ℚ) - quotient| ≤ |(other : ℚ) - quotient| := by
  by_cases same : other = whole
  · rw [same]
  · have apart := one_le_add quotient same
    have near := nearest.near
    linarith

/-- Of two equally near whole numbers, the even one is taken. -/
theorem even_of_tie (nearest : IsNearestWhole quotient whole) {other : Nat} (apart : other ≠ whole)
    (tie : |(other : ℚ) - quotient| = |(whole : ℚ) - quotient|) : whole % 2 = 0 := by
  have far := one_le_add quotient apart
  have near := nearest.near
  apply nearest.even
  linarith

end IsNearestWhole

namespace Binary64

variable {number : Binary64} {value : ℚ} {numerator denominator significand shift : Nat}

theorem roundQuotient_cases (numerator : Nat) (positive : 0 < denominator) :
    let rounded := roundQuotient numerator denominator
    2 * (denominator * rounded) ≤ 2 * numerator + denominator ∧
      2 * numerator ≤ 2 * (denominator * rounded) + denominator ∧
      (rounded % 2 = 0 ∨ 2 * (denominator * rounded) < 2 * numerator + denominator ∧
        2 * numerator < 2 * (denominator * rounded) + denominator) := by
  intro rounded
  have divided := Nat.div_add_mod numerator denominator
  have remainder := Nat.mod_lt numerator positive
  have next := Nat.mul_add denominator (numerator / denominator) 1
  simp only [rounded, roundQuotient]
  split
  · omega
  · split
    · rcases Nat.mod_two_eq_zero_or_one (numerator / denominator) with even | odd
      · rw [even, Nat.add_zero]
        omega
      · rw [odd]
        omega
    · omega

theorem isNearestWhole_roundQuotient (numerator : Nat) (positive : 0 < denominator) :
    IsNearestWhole (numerator / denominator) (roundQuotient numerator denominator) := by
  have scale : (0 : ℚ) < denominator := by exact_mod_cast positive
  have whole : (denominator : ℚ) * (numerator / denominator) = numerator :=
    mul_div_cancel₀ _ scale.ne'
  rcases roundQuotient_cases numerator positive with ⟨below, above, strict⟩
  generalize roundQuotient numerator denominator = rounded at *
  generalize (numerator / denominator : ℚ) = quotient at *
  have below : (2 * (denominator * rounded) : ℚ) ≤ 2 * numerator + denominator := by
    exact_mod_cast below
  have above : (2 * numerator : ℚ) ≤ 2 * (denominator * rounded) + denominator := by
    exact_mod_cast above
  constructor
  · rw [abs_le]
    constructor
    · apply le_of_mul_le_mul_left _ scale
      linarith
    · apply le_of_mul_le_mul_left _ scale
      linarith
  · intro tie
    rcases strict with even | ⟨low, high⟩
    · exact even
    · have low : (2 * (denominator * rounded) : ℚ) < 2 * numerator + denominator := by
        exact_mod_cast low
      have high : (2 * numerator : ℚ) < 2 * (denominator * rounded) + denominator := by
        exact_mod_cast high
      rcases (abs_eq (by norm_num)).mp tie with up | down
      · have scaled := congrArg ((denominator : ℚ) * ·) up
        linarith
      · have scaled := congrArg ((denominator : ℚ) * ·) down
        linarith

/-! ### Correctly rounded numbers -/

/-- From here on, exact values are rounded to infinity: half a place past the greatest number. -/
def overflowBound : ℚ := 2 ^ 1024 - 2 ^ 970

/--
The number is the correctly rounded one of an exact value: no finite number is nearer, and of
two equally near ones the even code counts.
-/
structure IsRounded (value : ℚ) (number : Binary64) : Prop where
  isFinite_iff : number.isFinite = true ↔ value < overflowBound
  nearest : number.isFinite = true → ∀ other : Binary64, other.isFinite = true →
    |number.toRat - value| ≤ |other.toRat - value|
  even : number.isFinite = true → ∀ other : Binary64, other.isFinite = true →
    other.toRat ≠ number.toRat → |other.toRat - value| = |number.toRat - value| →
      number.code % 2 = 0

namespace IsRounded

variable {other : Binary64}

theorem isFinite_of_code_lt (less : number.code < other.code) (finite : other.isFinite = true) :
    number.isFinite = true :=
  decide_eq_true (less.trans (of_decide_eq_true finite))

/-- Two equally near numbers are both even, so a nearer one lies between them. -/
theorem not_code_lt (rounded : IsRounded value number) (again : IsRounded value other)
    (finite : other.isFinite = true) : ¬number.code < other.code := by
  intro less
  have finite' := isFinite_of_code_lt less finite
  have apart : number.toRat < other.toRat := toRat_strictMono less
  have tie : |number.toRat - value| = |other.toRat - value| :=
    le_antisymm (rounded.nearest finite' other finite) (again.nearest finite number finite')
  have even := rounded.even finite' other finite apart.ne' tie.symm
  have even' := again.even finite number finite' apart.ne tie
  let middle : Binary64 := ⟨number.code + 1⟩
  have above : number.toRat < middle.toRat := toRat_strictMono (Nat.lt_succ_self _)
  have below : middle.code < other.code := by
    simp only [middle]
    omega
  have under : middle.toRat < other.toRat := toRat_strictMono below
  have nearest := rounded.nearest finite' middle (isFinite_of_code_lt below finite)
  have left := neg_abs_le (number.toRat - value)
  have right := le_abs_self (other.toRat - value)
  apply absurd nearest
  rw [not_le, abs_lt]
  constructor <;> linarith

/-- Rounding does not pass a number of the format. -/
theorem toRat_le (rounded : IsRounded value number) (finite : number.isFinite = true)
    (finite' : other.isFinite = true) (below : other.toRat ≤ value) :
    other.toRat ≤ number.toRat := by
  have nearest := rounded.nearest finite other finite'
  have distance := neg_abs_le (number.toRat - value)
  rw [abs_of_nonpos (sub_nonpos.mpr below)] at nearest
  linarith

/-- The finite number of a value is unique. -/
theorem unique (rounded : IsRounded value number) (again : IsRounded value other)
    (finite : number.isFinite = true) : other = number := by
  have finite' := again.isFinite_iff.mpr (rounded.isFinite_iff.mp finite)
  have least := rounded.not_code_lt again finite'
  have greatest := again.not_code_lt rounded finite
  exact congrArg Binary64.mk (by omega)

end IsRounded

/-- A significand that is nearest to the steps of a value, cut to 53 bits by a shift. -/
structure IsSignificand (steps : ℚ) (shift significand : Nat) : Prop where
  nearest : IsNearestWhole (steps / 2 ^ shift) significand
  full : shift = 0 ∨ 2 ^ 52 ≤ steps / 2 ^ shift
  narrow : steps / 2 ^ shift < 2 ^ 53

namespace IsSignificand

variable {steps : ℚ}

theorem le (cut : IsSignificand steps shift significand) : significand ≤ 2 ^ 53 := by
  have near := (abs_le.mp cut.nearest.near).2
  have narrow := cut.narrow
  by_contra! beyond
  have above : (2 ^ 53 + 1 : ℚ) ≤ significand := by exact_mod_cast beyond
  linarith

theorem full_significand (cut : IsSignificand steps shift significand) :
    shift = 0 ∨ 2 ^ 52 ≤ significand := by
  apply cut.full.imp_right
  intro full
  have near := (abs_le.mp cut.nearest.near).1
  by_contra! short
  have below : (significand + 1 : ℚ) ≤ 2 ^ 52 := by exact_mod_cast short
  linarith

theorem abs_mul_sub (steps : ℚ) (shift whole : Nat) :
    |(whole * 2 ^ shift : ℚ) - steps| = |(whole : ℚ) - steps / 2 ^ shift| * 2 ^ shift := by
  have place : (0 : ℚ) < 2 ^ shift := by positivity
  rw [← abs_of_pos place, ← abs_mul, abs_of_pos place, sub_mul, div_mul_cancel₀ _ place.ne']

/-- Numbers that are no multiples of the place are below all of these, and so not the nearest. -/
theorem multiple_or_far (cut : IsSignificand steps shift significand) (other : Binary64) :
    (∃ whole : Nat, (other.gridSteps : ℚ) = whole * 2 ^ shift) ∨
      |(significand * 2 ^ shift : ℚ) - steps| < |(other.gridSteps : ℚ) - steps| := by
  rcases gridSteps_lt_or_dvd other shift with below | ⟨whole, multiple⟩
  · rcases cut.full with rfl | full
    · exact .inl ⟨other.gridSteps, by simp⟩
    · right
      have place : (0 : ℚ) < 2 ^ shift := by positivity
      have whole : steps / 2 ^ shift * 2 ^ shift = steps := div_mul_cancel₀ _ place.ne'
      have least := cut.nearest.le (2 ^ 52)
      rw [Nat.cast_pow, Nat.cast_ofNat] at least
      have lower : (other.gridSteps : ℚ) < 2 ^ 52 * 2 ^ shift := by
        rw [← pow_add]
        exact_mod_cast below
      calc
        |(significand * 2 ^ shift : ℚ) - steps|
            = |(significand : ℚ) - steps / 2 ^ shift| * 2 ^ shift := abs_mul_sub _ _ _
        _ ≤ |2 ^ 52 - steps / 2 ^ shift| * 2 ^ shift :=
          mul_le_mul_of_nonneg_right least place.le
        _ = steps - 2 ^ 52 * 2 ^ shift := by
          rw [abs_sub_comm, abs_of_nonneg (sub_nonneg.mpr full), sub_mul, whole]
        _ < steps - other.gridSteps := by linarith
        _ ≤ |(other.gridSteps : ℚ) - steps| := by
          rw [abs_sub_comm]
          exact le_abs_self _
  · left
    refine ⟨whole, ?_⟩
    rw [multiple, mul_comm]
    push_cast
    rfl

theorem abs_sub_le (cut : IsSignificand steps shift significand) (other : Binary64) :
    |(significand * 2 ^ shift : ℚ) - steps| ≤ |(other.gridSteps : ℚ) - steps| := by
  rcases cut.multiple_or_far other with ⟨whole, multiple⟩ | far
  · rw [multiple, abs_mul_sub, abs_mul_sub]
    exact mul_le_mul_of_nonneg_right (cut.nearest.le whole) (by positivity)
  · exact far.le

theorem even_of_tie (cut : IsSignificand steps shift significand) {other : Binary64}
    (apart : (other.gridSteps : ℚ) ≠ significand * 2 ^ shift)
    (tie : |(other.gridSteps : ℚ) - steps| = |(significand * 2 ^ shift : ℚ) - steps|) :
    significand % 2 = 0 := by
  rcases cut.multiple_or_far other with ⟨whole, multiple⟩ | far
  · have place : (2 ^ shift : ℚ) ≠ 0 := by positivity
    rw [multiple, abs_mul_sub, abs_mul_sub] at tie
    apply cut.nearest.even_of_tie _ (mul_right_cancel₀ place tie)
    rintro rfl
    exact apart multiple
  · exact absurd tie far.ne'

/-- At the last shift the significand is carried over from half a place before the end on. -/
theorem lt_of_last_iff (cut : IsSignificand steps shift significand) :
    significand < 2 ^ 53 ↔ steps / 2 ^ shift < 2 ^ 53 - 1 / 2 := by
  rcases abs_le.mp cut.nearest.near with ⟨low, high⟩
  constructor
  · intro fits
    have top : (significand + 1 : ℚ) ≤ 2 ^ 53 := by exact_mod_cast fits
    by_contra! beyond
    have last : (significand + 1 : ℚ) = 2 ^ 53 := by linarith
    have tie : |(significand : ℚ) - steps / 2 ^ shift| = 1 / 2 := by
      rw [abs_eq (by norm_num)]
      right
      linarith
    have even := cut.nearest.even tie
    have odd : significand + 1 = 2 ^ 53 := by exact_mod_cast last
    omega
  · intro below
    have fits : (significand : ℚ) < 2 ^ 53 := by linarith
    exact_mod_cast fits

theorem isFinite_iff (cut : IsSignificand steps shift significand) {last : Nat}
    (greatest : last = 2045) :
    isFinite ⟨shift * 2 ^ 52 + significand⟩ = true ↔ steps < (2 ^ 53 - 1 / 2) * 2 ^ last := by
  have place : (0 : ℚ) < 2 ^ shift := by positivity
  have whole : steps / 2 ^ shift * 2 ^ shift = steps := div_mul_cancel₀ _ place.ne'
  have code : isFinite ⟨shift * 2 ^ 52 + significand⟩ = true ↔
      shift * 2 ^ 52 + significand < (last + 2) * 2 ^ 52 := by
    rw [isFinite, decide_eq_true_eq, infiniteCode, greatest]
    rfl
  rw [code]
  rcases Nat.lt_trichotomy shift last with earlier | rfl | later
  · have fits := cut.le
    have bounded : shift * 2 ^ 52 + 2 ^ 52 ≤ last * 2 ^ 52 := by omega
    have doubled : (2 * 2 ^ shift : ℚ) ≤ 2 ^ last := by
      rw [← pow_succ']
      exact pow_le_pow_right₀ one_le_two earlier
    apply iff_of_true
    · omega
    · calc
        steps = steps / 2 ^ shift * 2 ^ shift := whole.symm
        _ < 2 ^ 53 * 2 ^ shift := mul_lt_mul_of_pos_right cut.narrow place
        _ = 2 ^ 52 * (2 * 2 ^ shift) := by ring
        _ ≤ 2 ^ 52 * 2 ^ last := mul_le_mul_of_nonneg_left doubled (by norm_num)
        _ ≤ (2 ^ 53 - 1 / 2) * 2 ^ last := by gcongr; norm_num
  · rw [← div_lt_iff₀ place, ← cut.lt_of_last_iff]
    omega
  · have nonzero : shift ≠ 0 := by omega
    have full := cut.full_significand.resolve_left nonzero
    have large := cut.full.resolve_left nonzero
    have doubled : (2 * 2 ^ last : ℚ) ≤ 2 ^ shift := by
      rw [← pow_succ']
      exact pow_le_pow_right₀ one_le_two later
    apply iff_of_false
    · omega
    · rw [not_lt]
      calc
        ((2 ^ 53 - 1 / 2) * 2 ^ last : ℚ) ≤ 2 ^ 53 * 2 ^ last := by gcongr; norm_num
        _ = 2 ^ 52 * (2 * 2 ^ last) := by ring
        _ ≤ 2 ^ 52 * 2 ^ shift := mul_le_mul_of_nonneg_left doubled (by norm_num)
        _ ≤ steps / 2 ^ shift * 2 ^ shift := mul_le_mul_of_nonneg_right large place.le
        _ = steps := whole

end IsSignificand

theorem overflowBound_mul_gridPerUnit {last : Nat} (greatest : last = 2045) :
    overflowBound * gridPerUnit = (2 ^ 53 - 1 / 2) * 2 ^ last := by
  have scaled (least places : Nat) : (2 ^ (54 + least) - 2 ^ least : ℚ) * 2 ^ places =
      (2 ^ 53 - 1 / 2) * 2 ^ (least + places + 1) := by
    rw [pow_add, pow_succ, pow_add]
    ring
  rw [gridPerUnit_eq rfl, Nat.cast_pow, Nat.cast_ofNat, greatest]
  exact scaled 970 1074

/-- A value is rounded correctly if the significand of its steps is. -/
theorem isRounded_of_isSignificand (cut : IsSignificand (value * gridPerUnit) shift significand) :
    IsRounded value ⟨shift * 2 ^ 52 + significand⟩ := by
  have scale := gridPerUnit_cast_pos
  have steps : (gridSteps ⟨shift * 2 ^ 52 + significand⟩ : ℚ) = significand * 2 ^ shift := by
    rw [gridSteps_of_rounded cut.full_significand cut.le]
    push_cast
    rfl
  constructor
  · rw [cut.isFinite_iff rfl, ← overflowBound_mul_gridPerUnit rfl, mul_lt_mul_iff_left₀ scale]
  · intro _ other _
    rw [abs_toRat_sub, abs_toRat_sub, steps]
    exact div_le_div_of_nonneg_right (cut.abs_sub_le other) scale.le
  · intro _ other _ apart tie
    rw [abs_toRat_sub, abs_toRat_sub, div_left_inj' scale.ne', steps] at tie
    have beside : (other.gridSteps : ℚ) ≠ significand * 2 ^ shift := by
      intro same
      apply apart
      rw [toRat_eq, toRat_eq, same, steps]
    have even := cut.even_of_tie beside tie
    simp only
    omega

/-! ### The significand of a quotient -/

/-- The bits of the whole part are those of the value. -/
theorem log2_bounds {steps : ℚ} {whole : Nat} (least : whole ≤ steps) (next : steps < whole + 1)
    (shifted : shift = whole.log2 - 52) :
    (shift = 0 ∨ 2 ^ (52 + shift) ≤ steps) ∧ steps < 2 ^ (53 + shift) := by
  constructor
  · rcases Nat.eq_zero_or_pos shift with unshifted | moved
    · exact .inl unshifted
    · right
      have nonzero : whole ≠ 0 := by
        rintro rfl
        rw [Nat.log2_zero] at shifted
        omega
      have power : 2 ^ (52 + shift) ≤ whole := by
        rw [shifted, Nat.add_sub_cancel' (by omega)]
        exact Nat.log2_self_le nonzero
      have power : (2 ^ (52 + shift) : ℚ) ≤ whole := by exact_mod_cast power
      exact power.trans least
  · have bits : whole.log2 + 1 ≤ 53 + shift := by omega
    have power : whole + 1 ≤ 2 ^ (53 + shift) :=
      Nat.lt_log2_self.trans_le (Nat.pow_le_pow_right Nat.two_pos bits)
    have power : (whole + 1 : ℚ) ≤ 2 ^ (53 + shift) := by exact_mod_cast power
    exact next.trans_le power

theorem exists_isSignificand (numerator : Nat) (positive : 0 < denominator) :
    ∃ shift significand,
      ofQuotient numerator denominator = ⟨shift * 2 ^ 52 + significand⟩ ∧
        IsSignificand (numerator / denominator * gridPerUnit) shift significand := by
  have scale : (0 : ℚ) < denominator := by exact_mod_cast positive
  let steps := numerator * gridPerUnit
  let shift := (steps / denominator).log2 - 52
  have place : (0 : ℚ) < 2 ^ shift := by positivity
  have quotient : (numerator / denominator * gridPerUnit : ℚ) = (steps : ℕ) / denominator := by
    simp only [steps]
    push_cast
    rw [div_mul_eq_mul_div]
  have least : ((steps / denominator : ℕ) : ℚ) ≤ (steps : ℕ) / denominator := Nat.cast_div_le
  have next : ((steps : ℕ) / denominator : ℚ) < (steps / denominator : ℕ) + 1 := by
    rw [div_lt_iff₀ scale]
    exact_mod_cast (Nat.div_lt_iff_lt_mul positive).mp (Nat.lt_succ_self _)
  rcases log2_bounds least next rfl with ⟨full, narrow⟩
  have nearest := isNearestWhole_roundQuotient steps
    (Nat.mul_pos positive (Nat.two_pow_pos shift))
  refine ⟨shift, roundQuotient steps (denominator * 2 ^ shift), ?_, ?_, ?_, ?_⟩
  · simp only [ofQuotient, Nat.pow_eq, steps, shift]
  · rw [quotient, div_div]
    exact_mod_cast nearest
  · rw [quotient, le_div_iff₀ place, ← pow_add]
    exact full
  · rw [quotient, div_lt_iff₀ place, ← pow_add]
    exact narrow

/-- A quotient of natural numbers is rounded correctly. -/
theorem isRounded_ofQuotient (numerator : Nat) (positive : 0 < denominator) :
    IsRounded (numerator / denominator) (ofQuotient numerator denominator) := by
  rcases exists_isSignificand numerator positive with
    ⟨shift, significand, code, cut⟩
  rw [code]
  exact isRounded_of_isSignificand cut

/-! ### Natural numbers -/

theorem isRounded_ofNat (natural : Nat) : IsRounded natural (ofNat natural) := by
  have rounded := isRounded_ofQuotient natural Nat.one_pos
  rw [Nat.cast_one, div_one] at rounded
  exact rounded

/-- Words are far from the overflow. -/
theorem isFinite_ofNat {natural : Nat} (bounded : natural < 2 ^ 64) :
    (ofNat natural).isFinite = true := by
  rw [(isRounded_ofNat natural).isFinite_iff]
  have bounded : (natural : ℚ) < 2 ^ 64 := by exact_mod_cast bounded
  have room (least : Nat) (wide : 64 ≤ least) : (2 ^ 64 : ℚ) ≤ 2 ^ (54 + least) - 2 ^ least := by
    have word : (2 ^ 64 : ℚ) ≤ 2 ^ least := pow_le_pow_right₀ one_le_two wide
    rw [pow_add]
    linarith
  exact bounded.trans_le (room 970 (by decide))

/-- Rounding raises a natural number by at most half of the last place of a significand. -/
theorem toRat_ofNat_le (natural : Nat) :
    (ofNat natural).toRat ≤ natural * (1 + 1 / 2 ^ 53) := by
  rcases Nat.eq_zero_or_pos natural with rfl | positive
  · rw [ofNat_zero, toRat_zero, Nat.cast_zero, zero_mul]
  obtain ⟨grid, all⟩ : ∃ grid, grid = 1074 := ⟨1074, rfl⟩
  have scale := gridPerUnit_cast_pos
  have one : (1 : ℚ) ≤ natural := by exact_mod_cast positive
  have room : (2 ^ 52 : ℚ) ≤ natural * gridPerUnit := by
    have wide : (2 ^ 52 : ℚ) ≤ gridPerUnit := by
      rw [gridPerUnit_eq all, Nat.cast_pow, Nat.cast_ofNat]
      exact pow_le_pow_right₀ one_le_two (by omega)
    exact wide.trans (le_mul_of_one_le_left scale.le one)
  rcases exists_isSignificand natural Nat.one_pos with ⟨shift, significand, code, cut⟩
  rw [Nat.cast_one, div_one] at cut
  have place : (0 : ℚ) < 2 ^ shift := by positivity
  have full : (2 ^ 52 : ℚ) ≤ natural * gridPerUnit / 2 ^ shift := by
    rcases cut.full with rfl | full
    · rwa [pow_zero, div_one]
    · exact full
  have near := (abs_le.mp cut.nearest.near).2
  rw [ofNat, code, toRat_eq, gridSteps_of_rounded cut.full_significand cut.le, div_le_iff₀ scale]
  push_cast
  calc
    (significand * 2 ^ shift : ℚ)
        ≤ (natural * gridPerUnit / 2 ^ shift * (1 + 1 / 2 ^ 53)) * 2 ^ shift :=
      mul_le_mul_of_nonneg_right (by linarith) place.le
    _ = natural * (1 + 1 / 2 ^ 53) * gridPerUnit := by
      field_simp

theorem toRat_ofNat {natural : Nat} (fits : natural < 2 ^ 53) : (ofNat natural).toRat = natural := by
  rw [toRat_eq, gridSteps_ofNat fits, Nat.cast_mul, mul_div_cancel_right₀ _ gridPerUnit_cast_pos.ne']

/-- A product is the rounded one of the exact values. -/
theorem isRounded_mul (left right : Binary64) :
    IsRounded (left.toRat * right.toRat) (left.mul right) := by
  have rounded := isRounded_ofQuotient (left.gridSteps * right.gridSteps)
    (Nat.mul_pos gridPerUnit_pos gridPerUnit_pos)
  rw [Nat.cast_mul, Nat.cast_mul, ← div_mul_div_comm, ← toRat_eq, ← toRat_eq] at rounded
  exact rounded

/-! ### Decimal numbers -/

/-- A power of ten is a natural number as long as it is formed. -/
theorem ofDecimal_one {places : Nat} (formed : places ≤ 400) :
    ofDecimal 1 places = ofNat (10 ^ places) := by
  have bits : Nat.log2 1 = 0 := by decide
  rw [ofDecimal, if_neg (by decide), if_neg (by omega), if_neg (by omega), if_pos (by omega),
    Nat.one_mul]
  rfl

/-- Up to half of the least positive number, a value is rounded to zero. -/
theorem isRounded_zero (nonnegative : 0 ≤ value) (small : value * gridPerUnit ≤ 1 / 2) :
    IsRounded value zero := by
  have steps : 0 ≤ value * gridPerUnit := mul_nonneg nonnegative gridPerUnit_cast_pos.le
  have cut : IsSignificand (value * gridPerUnit) 0 0 := by
    constructor
    · constructor
      · rw [pow_zero, div_one, Nat.cast_zero, zero_sub, abs_neg, abs_of_nonneg steps]
        exact small
      · exact fun _ => rfl
    · exact .inl rfl
    · rw [pow_zero, div_one]
      linarith
  exact isRounded_of_isSignificand cut

theorem isRounded_infinite (beyond : overflowBound ≤ value) : IsRounded value ⟨infiniteCode⟩ := by
  have infinite : ¬isFinite ⟨infiniteCode⟩ = true := by simp [isFinite]
  constructor
  · exact iff_of_false infinite (not_lt.mpr beyond)
  · exact fun finite => absurd finite infinite
  · exact fun finite => absurd finite infinite

theorem mul_two_pow_le_ten_pow {digits places spare : Nat}
    (many : digits.log2 + spare < 3 * places) : digits * 2 ^ spare ≤ 10 ^ places := by
  calc
    digits * 2 ^ spare ≤ 2 ^ (digits.log2 + 1) * 2 ^ spare :=
      Nat.mul_le_mul_right _ Nat.lt_log2_self.le
    _ = 2 ^ (digits.log2 + 1 + spare) := (Nat.pow_add _ _ _).symm
    _ ≤ 2 ^ (3 * places) := Nat.pow_le_pow_right Nat.two_pos (by omega)
    _ = 8 ^ places := Nat.pow_mul _ _ _
    _ ≤ 10 ^ places := Nat.pow_le_pow_left (by decide) places

theorem overflowBound_le_ten_pow {places : Nat} (many : 400 < places) :
    overflowBound ≤ 10 ^ places := by
  have bits : Nat.log2 1 = 0 := by decide
  have power : 1 * 2 ^ 1024 ≤ 10 ^ places := mul_two_pow_le_ten_pow (by omega)
  rw [Nat.one_mul] at power
  calc
    overflowBound ≤ 2 ^ 1024 := sub_le_self _ (by positivity)
    _ ≤ 10 ^ places := by exact_mod_cast power

theorem div_ten_pow_mul_gridPerUnit_le {digits places : Nat}
    (many : 400 + digits.log2 < places) :
    (digits / 10 ^ places * gridPerUnit : ℚ) ≤ 1 / 2 := by
  obtain ⟨grid, all⟩ : ∃ grid, grid = 1074 := ⟨1074, rfl⟩
  have power : 2 * (digits * gridPerUnit) ≤ 10 ^ places := by
    rw [gridPerUnit_eq all, Nat.mul_left_comm, ← Nat.pow_succ']
    exact mul_two_pow_le_ten_pow (by omega)
  have power : (2 * (digits * gridPerUnit) : ℚ) ≤ 10 ^ places := by exact_mod_cast power
  rw [div_mul_eq_mul_div, div_le_iff₀ (by positivity)]
  linarith

/-- A decimal number is rounded correctly, also where its power of ten is not formed. -/
theorem isRounded_ofDecimal (digits : Nat) (exponent : Int) :
    IsRounded (digits * 10 ^ exponent) (ofDecimal digits exponent) := by
  unfold ofDecimal
  split_ifs with none high low whole
  · rw [none, Nat.cast_zero, zero_mul]
    apply isRounded_zero le_rfl
    rw [zero_mul]
    norm_num
  · -- The power alone is out of range.
    lift exponent to Nat using by omega
    have some : (1 : ℚ) ≤ digits := by exact_mod_cast Nat.one_le_iff_ne_zero.mpr none
    apply isRounded_infinite
    rw [zpow_natCast]
    have beyond : overflowBound ≤ 10 ^ exponent := overflowBound_le_ten_pow (by omega)
    exact beyond.trans (le_mul_of_one_le_left (by positivity) some)
  · obtain ⟨places, rfl⟩ : ∃ places : Nat, exponent = -places := ⟨(-exponent).toNat, by omega⟩
    rw [zpow_neg, zpow_natCast, ← div_eq_mul_inv]
    exact isRounded_zero (by positivity) (div_ten_pow_mul_gridPerUnit_le (by omega))
  · lift exponent to Nat using whole
    have rounded := isRounded_ofQuotient (digits * 10 ^ exponent) Nat.one_pos
    simpa using rounded
  · obtain ⟨places, rfl⟩ : ∃ places : Nat, exponent = -places := ⟨(-exponent).toNat, by omega⟩
    have positive : 0 < 10 ^ places := Nat.pow_pos (by decide)
    have rounded := isRounded_ofQuotient digits positive
    simpa [div_eq_mul_inv] using rounded

end Binary64

end ServingPreset
