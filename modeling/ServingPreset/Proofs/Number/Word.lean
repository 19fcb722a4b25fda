import Mathlib.Algebra.Ring.Int.Defs
import ServingPreset.Number.Word

/-!
# Exact results on words

An operation on signed words gives its exact result when that has a word, and a fault
otherwise. Doubling comes before a product of three: with a positive factor behind it, a
double that has no word leaves the whole product without one. A product that is held at the
limits may be held there early, as long as only positive factors follow
(`mulSaturating_mulSaturating`).
-/

namespace ServingPreset

@[simp]
theorem ok_bind {Failure First Second : Type} (first : First)
    (next : First → Except Failure Second) :
    (Except.ok first >>= next) = next first := rfl

@[simp]
theorem error_bind {Failure First Second : Type} (failure : Failure)
    (next : First → Except Failure Second) :
    (Except.error failure >>= next) = .error failure := rfl

/-- Whether an integer has a signed word. -/
def FitsSigned (value : Int) : Prop :=
  minSigned ≤ value ∧ value ≤ maxSigned

instance (value : Int) : Decidable (FitsSigned value) :=
  inferInstanceAs (Decidable (_ ∧ _))

theorem minSigned_eq : minSigned = -2 ^ 63 := rfl

theorem maxSigned_eq : maxSigned = 2 ^ 63 - 1 := rfl

theorem fitsSigned_iff {value : Int} : FitsSigned value ↔ -2 ^ 63 ≤ value ∧ value < 2 ^ 63 := by
  rw [FitsSigned, minSigned_eq, maxSigned_eq]
  omega

theorem toInt_ofInt_of_fitsSigned {value : Int} (fits : FitsSigned value) :
    (Int64.ofInt value).toInt = value := by
  have range := fitsSigned_iff.mp fits
  exact Int64.toInt_ofInt_of_le range.1 range.2

theorem signedWord?_eq (value : Int) :
    signedWord? value = if FitsSigned value then some (Int64.ofInt value) else none := rfl

theorem signedWord?_eq_some_iff {value : Int} {word : Int64} :
    signedWord? value = some word ↔ value = word.toInt := by
  rw [signedWord?_eq]
  constructor
  · intro found
    split at found
    · next fits =>
        cases found
        exact (toInt_ofInt_of_fitsSigned fits).symm
    · contradiction
  · rintro rfl
    rw [if_pos (fitsSigned_iff.mpr ⟨word.le_toInt, word.toInt_lt⟩), Int64.ofInt_toInt]

theorem exists_sum_of_le {left right : UInt64} (fits : left.toNat + right.toNat ≤ maxUnsigned) :
    ∃ sum, addUnsigned left right = .ok sum ∧ sum.toNat = left.toNat + right.toNat := by
  refine ⟨left + right, if_pos fits, ?_⟩
  rw [UInt64.toNat_add]
  exact Nat.mod_eq_of_lt (Nat.lt_of_le_sub_one (by decide) fits)

theorem addUnsigned_of_lt {left right : UInt64} (beyond : maxUnsigned < left.toNat + right.toNat) :
    addUnsigned left right = .error .additionOverflow :=
  if_neg (Nat.not_le.mpr beyond)

theorem toNat_clampUnsigned (value : Nat) :
    (clampUnsigned value).toNat = min value maxUnsigned := by
  apply UInt64.toNat_ofNat_of_lt'
  exact Nat.lt_of_le_sub_one (by decide) (Nat.min_le_right _ _)

theorem addSigned_eq (left right : Int64) :
    addSigned left right =
      if FitsSigned (left.toInt + right.toInt) then .ok (Int64.ofInt (left.toInt + right.toInt))
      else .error .additionOverflow := by
  by_cases fits : FitsSigned (left.toInt + right.toInt) <;>
    simp [addSigned, signedWord?_eq, fits]

theorem mulSigned_eq (left right : Int64) :
    mulSigned left right =
      if FitsSigned (left.toInt * right.toInt) then .ok (Int64.ofInt (left.toInt * right.toInt))
      else .error .multiplicationOverflow := by
  by_cases fits : FitsSigned (left.toInt * right.toInt) <;>
    simp [mulSigned, signedWord?_eq, fits]

theorem FitsSigned.of_mul_positive {value factor : Int} (nonnegative : 0 ≤ value)
    (positive : 0 < factor) (fits : FitsSigned (value * factor)) : FitsSigned value := by
  rw [fitsSigned_iff] at fits ⊢
  have bounded : value * 1 ≤ value * factor := Int.mul_le_mul_of_nonneg_left positive nonnegative
  omega

/-- Doubling first stops exactly when the whole product has no word. -/
theorem mulSigned_two_bind (left right : Int64) (nonnegative : 0 ≤ left.toInt)
    (positive : 0 < right.toInt) :
    (mulSigned 2 left >>= fun double => mulSigned double right) =
      if FitsSigned (2 * left.toInt * right.toInt) then
        .ok (Int64.ofInt (2 * left.toInt * right.toInt))
      else .error .multiplicationOverflow := by
  have two : (2 : Int64).toInt = 2 := rfl
  rw [mulSigned_eq, two]
  by_cases fits : FitsSigned (2 * left.toInt)
  · have same := mulSigned_eq (Int64.ofInt (2 * left.toInt)) right
    rw [toInt_ofInt_of_fitsSigned fits] at same
    rw [if_pos fits]
    exact same
  · have whole : ¬FitsSigned (2 * left.toInt * right.toInt) :=
      fun product => fits (product.of_mul_positive (by omega) positive)
    rw [if_neg fits, if_neg whole]
    rfl

/-! ### Quotients -/

/-- The quotient of two signed words, cut to a whole number towards zero, if it has a word. -/
def divSigned? (left right : Int64) : Option Int64 :=
  if right = 0 then none else signedWord? (left.toInt.tdiv right.toInt)

theorem toInt_div_of_positive {left right : Int64} (positive : 0 < right) :
    (left / right).toInt = left.toInt.tdiv right.toInt := by
  refine Int64.toInt_div_of_ne_right left right fun negative => ?_
  rw [negative] at positive
  contradiction

theorem divSigned?_of_positive {left right : Int64} (positive : 0 < right) :
    divSigned? left right = some (left / right) := by
  have nonzero : right ≠ 0 := (Int64.ne_of_lt positive).symm
  have fits : FitsSigned (left / right).toInt :=
    fitsSigned_iff.mpr ⟨Int64.le_toInt _, Int64.toInt_lt _⟩
  rw [divSigned?, if_neg nonzero, ← toInt_div_of_positive positive, signedWord?_eq, if_pos fits,
    Int64.ofInt_toInt]

/-! ### Results held at the limits -/

theorem toInt_clampSigned (value : Int) :
    (clampSigned value).toInt = max minSigned (min value maxSigned) := by
  have order : minSigned ≤ maxSigned := by decide
  exact toInt_ofInt_of_fitsSigned
    ⟨Int.le_max_left _ _, Int.max_le.mpr ⟨order, Int.min_le_right _ _⟩⟩

theorem clampSigned_of_le {value : Int} (low : value ≤ minSigned) :
    clampSigned value = Int64.ofInt minSigned := by
  have order : minSigned ≤ maxSigned := by decide
  rw [clampSigned, Int.min_eq_left (Int.le_trans low order), Int.max_eq_left low]

theorem clampSigned_of_ge {value : Int} (high : maxSigned ≤ value) :
    clampSigned value = Int64.ofInt maxSigned := by
  have order : minSigned ≤ maxSigned := by decide
  rw [clampSigned, Int.min_eq_right high, Int.max_eq_right order]

/-- A product held at the limits twice is held there once, for a positive last factor. -/
theorem mulSaturating_mulSaturating (left right : Int64) {factor : Int64}
    (positive : 0 < factor.toInt) :
    mulSaturating (mulSaturating left right) factor =
      clampSigned (left.toInt * right.toInt * factor.toInt) := by
  have order : minSigned < 0 ∧ 0 < maxSigned := by decide
  rw [mulSaturating, mulSaturating, toInt_clampSigned]
  generalize left.toInt * right.toInt = product
  rcases Int.lt_or_le product minSigned with low | low
  · -- Both products are at or below the least word.
    have held : max minSigned (min product maxSigned) = minSigned := by omega
    have bounded : minSigned * factor.toInt ≤ minSigned * 1 :=
      Int.mul_le_mul_of_nonpos_left (Int.le_of_lt order.1) positive
    have whole : product * factor.toInt ≤ minSigned * factor.toInt :=
      Int.mul_le_mul_of_nonneg_right (Int.le_of_lt low) (Int.le_of_lt positive)
    rw [held, clampSigned_of_le (by omega), clampSigned_of_le (by omega)]
  · rcases Int.lt_or_le maxSigned product with high | high
    · -- Both products are at or above the greatest word.
      have held : max minSigned (min product maxSigned) = maxSigned := by omega
      have bounded : maxSigned * 1 ≤ maxSigned * factor.toInt :=
        Int.mul_le_mul_of_nonneg_left positive (Int.le_of_lt order.2)
      have whole : maxSigned * factor.toInt ≤ product * factor.toInt :=
        Int.mul_le_mul_of_nonneg_right (Int.le_of_lt high) (Int.le_of_lt positive)
      rw [held, clampSigned_of_ge (by omega), clampSigned_of_ge (by omega)]
    · have held : max minSigned (min product maxSigned) = product := by omega
      rw [held]

theorem toNat_unsignedOrZero (value : Int64) :
    ((unsignedOrZero value).toNat : Int) = max 0 value.toInt := by
  have bounded := value.toInt_lt
  rw [unsignedOrZero, UInt64.toNat_ofNat_of_lt' (by simp only [UInt64.size]; omega)]
  omega

theorem toNat_unsignedOrZero_clampSigned (value : Int) :
    ((unsignedOrZero (clampSigned value)).toNat : Int) = max 0 (min value maxSigned) := by
  have order : minSigned < 0 := by decide
  rw [toNat_unsignedOrZero, toInt_clampSigned]
  omega

end ServingPreset
