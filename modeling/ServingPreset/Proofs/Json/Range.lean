import ServingPreset.Proofs.Json.Numeral
import ServingPreset.Proofs.Number.Rounding

/-!
# Numerals in range

A numeral is read in two rounded steps: the leading digits that fit a word, and their product
with a power of ten. Each step may raise the number a little, so a numeral just below the
greatest number can be lost. No numeral up to `greatestRead` is, which is three places below the
greatest number (`Numeral.isSome_number?`). Small numerals are never lost, because there the
steps are divisions.
-/

namespace ServingPreset

namespace Json

/-! ### Scaling -/

/-- A number up to which no numeral is lost, three places below the greatest number. -/
def greatestRead : ℚ := 2 ^ 1024 - 2 ^ 973

theorem isSome_scale?_of_neg (number : Binary64) (exponent : Int) (negative : exponent < 0) :
    (scale? number exponent).isSome = true := by
  fun_induction scale? number exponent with
  | case1 | case2 => omega
  | case3 => rfl
  | case4 => rfl
  | case5 => omega
  | case6 number exponent far nonzero _ ih => exact ih (by omega)

/-- Two errors of half a place do not lead from the bound to the overflow. -/
theorem greatestRead_mul_lt : greatestRead * (1 + 1 / 2 ^ 53) ^ 2 < Binary64.overflowBound := by
  have scaled (least : Nat) : (2 ^ (54 + least) - 2 ^ (3 + least) : ℚ) * (1 + 1 / 2 ^ 53) ^ 2 <
      2 ^ (54 + least) - 2 ^ least := by
    have place : (0 : ℚ) < 2 ^ least := by positivity
    rw [pow_add, pow_add]
    linarith
  exact scaled 970

/-- One rounded multiplication by a power of ten does not overflow up to the bound. -/
theorem isFinite_mul_ofDecimal {significand places : Nat} (near : places ≤ 308)
    (bounded : (significand * 10 ^ places : ℚ) ≤ greatestRead) :
    ((Binary64.ofNat significand).mul (Binary64.ofDecimal 1 places)).isFinite = true := by
  rw [Binary64.ofDecimal_one (by omega), (Binary64.isRounded_mul _ _).isFinite_iff]
  have left := Binary64.toRat_ofNat_le significand
  have right := Binary64.toRat_ofNat_le (10 ^ places)
  calc
    (Binary64.ofNat significand).toRat * (Binary64.ofNat (10 ^ places)).toRat
        ≤ (significand * (1 + 1 / 2 ^ 53)) * ((10 ^ places : Nat) * (1 + 1 / 2 ^ 53)) :=
      mul_le_mul left right (Binary64.toRat_nonneg _) (by positivity)
    _ = (significand * 10 ^ places) * (1 + 1 / 2 ^ 53) ^ 2 := by
      push_cast
      ring
    _ ≤ greatestRead * (1 + 1 / 2 ^ 53) ^ 2 :=
      mul_le_mul_of_nonneg_right bounded (by positivity)
    _ < Binary64.overflowBound := greatestRead_mul_lt

theorem greatestRead_lt_ten_pow {places : Nat} (far : 308 < places) :
    greatestRead < 10 ^ places := by
  have powers : 2 ^ 1024 ≤ 10 ^ 309 := by decide +kernel
  have least : (2 ^ 1024 : ℚ) ≤ 10 ^ 309 := by exact_mod_cast powers
  calc
    greatestRead < 2 ^ 1024 := sub_lt_self _ (by positivity)
    _ ≤ 10 ^ 309 := least
    _ ≤ 10 ^ places := pow_le_pow_right₀ (by norm_num) far

/-- No number is scaled beyond the greatest one that is at most the bound afterwards. -/
theorem isSome_scale? (significand : Nat) (exponent : Int)
    (bounded : (significand * 10 ^ exponent : ℚ) ≤ greatestRead) :
    (scale? (Binary64.ofNat significand) exponent).isSome = true := by
  rcases Int.lt_or_le exponent 0 with negative | nonnegative
  · exact isSome_scale?_of_neg _ _ negative
  · lift exponent to Nat using nonnegative with places
    rw [zpow_natCast] at bounded
    rw [scale?]
    rcases Nat.lt_or_ge 308 places with far | near
    · have none : significand = 0 := by
        by_contra some
        have one : (1 : ℚ) ≤ significand := by exact_mod_cast Nat.one_le_iff_ne_zero.mpr some
        have power : (10 ^ places : ℚ) ≤ significand * 10 ^ places :=
          le_mul_of_one_le_left (by positivity) one
        exact absurd (power.trans bounded) (not_le.mpr (greatestRead_lt_ten_pow far))
      subst none
      rw [if_neg (by omega), Binary64.ofNat_zero, if_pos rfl]
      rfl
    · rw [if_pos (by omega), if_pos (by omega), if_pos (isFinite_mul_ofDecimal near bounded)]
      rfl

/-! ### Leading digits -/

namespace Digits

theorem extend_eq (start : Nat) (digits : List (Fin 10)) :
    extend start digits = start * 10 ^ digits.length + extend 0 digits := by
  induction digits generalizing start with
  | nil => simp [extend]
  | cons digit later ih =>
      have further (start : Nat) :
          extend start (digit :: later) = extend (10 * start + digit.val) later := rfl
      rw [further, further, ih, ih (10 * 0 + digit.val), List.length_cons, Nat.pow_succ]
      ring

theorem mul_le_extend (start : Nat) (digits : List (Fin 10)) :
    start * 10 ^ digits.length ≤ extend start digits := by
  rw [extend_eq]
  exact Nat.le_add_right _ _

theorem extend_lt (start : Nat) (digits : List (Fin 10)) :
    extend start digits < (start + 1) * 10 ^ digits.length := by
  induction digits generalizing start with
  | nil => simp [extend]
  | cons digit later ih =>
      have further := ih (10 * start + digit.val)
      have next : 10 * start + digit.val + 1 ≤ 10 * (start + 1) := by omega
      calc
        extend start (digit :: later) < (10 * start + digit.val + 1) * 10 ^ later.length := further
        _ ≤ 10 * (start + 1) * 10 ^ later.length := Nat.mul_le_mul_right _ next
        _ = (start + 1) * 10 ^ (digit :: later).length := by
          rw [List.length_cons, Nat.pow_succ]
          ring

theorem extend_append (start : Nat) (front back : List (Fin 10)) :
    extend start (front ++ back) = extend (extend start front) back :=
  List.foldl_append

/-- Digits are taken from the front until the next one would lead beyond a word. -/
theorem exists_absorb (start : Nat) (digits : List (Fin 10)) :
    ∃ taken later, digits = taken ++ later ∧
      absorb start (digits.map digitOctet) = (extend start taken, later.map digitOctet) ∧
      (taken = [] ∨ extend start taken ≤ maxUnsigned) ∧
      ∀ digit ∈ later.head?, maxUnsigned < 10 * extend start taken + digit.val := by
  induction digits generalizing start with
  | nil => exact ⟨[], [], rfl, rfl, .inl rfl, by simp⟩
  | cons digit others ih =>
      rw [List.map_cons, absorb, digitValue_digitOctet]
      by_cases fits : 10 * start + digit.val ≤ maxUnsigned
      · rcases ih (10 * start + digit.val) with ⟨taken, later, rfl, absorbed, held, next⟩
        refine ⟨digit :: taken, later, rfl, by rw [if_pos fits, absorbed]; rfl, .inr ?_, next⟩
        rcases held with rfl | held
        · exact fits
        · exact held
      · refine ⟨[], digit :: others, rfl, if_neg fits, .inl rfl, ?_⟩
        intro first head
        cases head
        exact Nat.not_le.mp fits

/--
Digits that are taken where others were left over are too small: the first of them fits a word,
and the first one left over does not.
-/
theorem extend_mul_le {start : Nat} {later taken : List (Fin 10)}
    (left : ∀ digit ∈ later.head?, maxUnsigned < 10 * start + digit.val)
    (held : taken = [] ∨ extend start taken ≤ maxUnsigned) :
    extend start taken * 10 ^ later.length ≤ extend (extend start later) taken := by
  cases later with
  | nil => simp [extend]
  | cons digit others =>
      cases taken with
      | nil => exact mul_le_extend start _
      | cons first further =>
          have beyond := left digit rfl
          have fits := (le_extend (10 * start + first.val) further).trans
            (held.resolve_left (List.cons_ne_nil _ _))
          have smaller : 10 * start + first.val + 1 ≤ 10 * start + digit.val := by omega
          calc
            extend start (first :: further) * 10 ^ (digit :: others).length
                ≤ (10 * start + first.val + 1) * 10 ^ further.length *
                  10 ^ (digit :: others).length :=
              Nat.mul_le_mul_right _ (extend_lt (10 * start + first.val) further).le
            _ ≤ (10 * start + digit.val) * 10 ^ further.length * 10 ^ (digit :: others).length :=
              Nat.mul_le_mul_right _ (Nat.mul_le_mul_right _ smaller)
            _ = (10 * start + digit.val) * 10 ^ others.length *
                10 ^ (first :: further).length := by
              rw [List.length_cons, List.length_cons, Nat.pow_succ, Nat.pow_succ]
              ring
            _ ≤ extend start (digit :: others) * 10 ^ (first :: further).length :=
              Nat.mul_le_mul_right _ (mul_le_extend (10 * start + digit.val) others)
            _ ≤ extend (extend start (digit :: others)) (first :: further) := mul_le_extend _ _

end Digits

/-! ### Numerals -/

namespace Numeral

variable {numeral : Numeral}

/-- The value of the fraction. -/
def fractionValue (numeral : Numeral) : ℚ :=
  match numeral.fraction with
  | none => 0
  | some digits => digits.value / 10 ^ digits.toList.length

/-- The value that a numeral states, without its sign. -/
def magnitude (numeral : Numeral) : ℚ :=
  (numeral.whole.value + numeral.fractionValue) * 10 ^ numeral.power

/-- The digits of the fraction as a list. -/
def fractionList (numeral : Numeral) : List (Fin 10) :=
  match numeral.fraction with
  | none => []
  | some digits => digits.toList

theorem fractionDigits_eq (numeral : Numeral) :
    numeral.fractionDigits = numeral.fractionList.map digitOctet := by
  rw [fractionDigits, fractionList]
  cases numeral.fraction <;> rfl

/-- All digits make the number without its point. -/
theorem extend_whole_value (numeral : Numeral) :
    (Digits.extend numeral.whole.value numeral.fractionList : ℚ) =
      (numeral.whole.value + numeral.fractionValue) * 10 ^ numeral.fractionList.length := by
  rw [Digits.extend_eq, fractionList, fractionValue]
  cases numeral.fraction with
  | none => simp [Digits.extend]
  | some digits =>
      have place : (10 ^ digits.toList.length : ℚ) ≠ 0 := by positivity
      push_cast
      rw [add_mul, div_mul_cancel₀ _ place]
      rfl

/-- The leading digits that count are not more than all digits. -/
theorem allDigits_mul_le (numeral : Numeral) :
    (numeral.allDigits.1 * 10 ^ numeral.scale : ℚ) ≤ numeral.magnitude := by
  rcases Digits.exists_absorb 0 numeral.whole.toList with ⟨taken, later, whole, first, _, left⟩
  rcases Digits.exists_absorb (Digits.extend 0 taken) numeral.fractionList with
    ⟨further, unused, fraction, second, held, _⟩
  have wholeDigits : numeral.wholeDigits = (Digits.extend 0 taken, later.map digitOctet) := first
  have allDigits : numeral.allDigits =
      (Digits.extend (Digits.extend 0 taken) further, unused.map digitOctet) := by
    rw [Numeral.allDigits, wholeDigits, fractionDigits_eq, second]
  have scale : numeral.scale = (later.length : ℤ) - further.length + numeral.power := by
    rw [Numeral.scale, wholeDigits, allDigits, fractionDigits_eq, fraction]
    simp
  have value : numeral.whole.value = Digits.extend (Digits.extend 0 taken) later := by
    rw [Digits.value_eq, whole, Digits.extend_append]
  have digits : Digits.extend (Digits.extend 0 taken) further * 10 ^ later.length *
      10 ^ unused.length ≤ Digits.extend numeral.whole.value numeral.fractionList := by
    rw [fraction, Digits.extend_append, value]
    exact (Nat.mul_le_mul_right _ (Digits.extend_mul_le left held)).trans
      (Digits.mul_le_extend _ _)
  have scaled : (Digits.extend (Digits.extend 0 taken) further * 10 ^ later.length : ℚ) ≤
      (numeral.whole.value + numeral.fractionValue) * 10 ^ further.length := by
    have place : (0 : ℚ) < 10 ^ unused.length := by positivity
    have digits : (Digits.extend (Digits.extend 0 taken) further * 10 ^ later.length *
        10 ^ unused.length : ℚ) ≤ Digits.extend numeral.whole.value numeral.fractionList := by
      exact_mod_cast digits
    rw [extend_whole_value, fraction, List.length_append, pow_add, ← mul_assoc] at digits
    exact le_of_mul_le_mul_right digits place
  have ten : (10 : ℚ) ≠ 0 := by norm_num
  have place : (0 : ℚ) < 10 ^ further.length := by positivity
  rw [allDigits, scale, magnitude, zpow_add₀ ten, zpow_sub₀ ten, zpow_natCast, zpow_natCast,
    ← mul_assoc, ← mul_div_assoc]
  exact mul_le_mul_of_nonneg_right ((div_le_iff₀ place).mpr scaled)
    (zpow_nonneg (by norm_num) numeral.power)

/-- A numeral up to the bound is a number. -/
theorem isSome_number? (bounded : numeral.magnitude ≤ greatestRead) :
    numeral.number?.isSome = true := by
  by_cases integer : numeral.IsInteger
  · rw [number?, if_pos integer]
    rfl
  · rw [number?_of_not_isInteger integer, Option.isSome_map]
    exact isSome_scale? _ _ (numeral.allDigits_mul_le.trans bounded)

end Numeral

end Json

end ServingPreset
