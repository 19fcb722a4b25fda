import Mathlib.Algebra.Order.Floor.Div
import Mathlib.GroupTheory.GroupAction.Ring
import ServingPreset.Proofs.Number.DecimalText
import ServingPreset.Proofs.Number.Rounding
import ServingPreset.Proofs.Text.Blank
import ServingPreset.Proofs.Text.Cut
import ServingPreset.Quantity

/-!
# Whole quantities

A whole number of gibibytes that fits a significand is read back from its quantity as it
was written: the digits have no blanks to trim, the unit comes off the end, and the number
is not rounded. The size of a model takes at most 34 bits, so the disk for it is had by
an addition of whole numbers that stays in the range.
-/

namespace ServingPreset

namespace Text

theorem isBlank_of_isDigit {char : Char} (digit : DecimalText.isDigit char = true) :
    isBlank char = false := by
  have range := DecimalText.isDigit_iff.mp digit
  simp only [isBlank, blankRanges, List.any_cons, List.any_nil, Bool.or_eq_false_iff,
    Bool.and_eq_false_iff, decide_eq_false_iff_not, and_true]
  omega

end Text

namespace Quantity

variable {gibibytes bytes : UInt64}

/-! ### Reading a quantity that was written -/

theorem toList_render (gibibytes : UInt64) :
    (render gibibytes).toList = Nat.toDigits 10 gibibytes.toNat ++ ['G', 'i'] := by
  rw [render, String.toList_append, DecimalText.toList_render]
  rfl

theorem trimChars_digits (value : Nat) :
    Text.trimChars (Nat.toDigits 10 value) = Nat.toDigits 10 value := by
  have nonblank : ∀ char ∈ Nat.toDigits 10 value, Text.isBlank char = false :=
    fun _ member => Text.isBlank_of_isDigit (DecimalText.isDigit_of_mem_toDigits member)
  apply Text.trimChars_eq_self
  · exact fun char first => nonblank char (List.mem_of_mem_head? first)
  · exact fun char last => nonblank char (List.mem_of_mem_getLast? last)

theorem trimChars_toList_render (gibibytes : UInt64) :
    Text.trimChars (render gibibytes).toList = (render gibibytes).toList := by
  rw [toList_render]
  apply Text.trimChars_eq_self
  · intro char first
    rw [List.head?_append_of_ne_nil _ Nat.toDigits_ne_nil] at first
    exact Text.isBlank_of_isDigit
      (DecimalText.isDigit_of_mem_toDigits (List.mem_of_mem_head? first))
  · intro char last
    rw [List.getLast?_append] at last
    cases last
    decide

theorem parse?_render (gibibytes : UInt64) :
    parse? (render gibibytes) = some ⟨false, Binary64.ofNat gibibytes.toNat⟩ := by
  have digits : ∀ char ∈ Nat.toDigits 10 gibibytes.toNat, DecimalText.isDigit char = true :=
    fun _ => DecimalText.isDigit_of_mem_toDigits
  rw [parse?, trimChars_toList_render, toList_render]
  change (Text.withoutEnding? ['G', 'i'] _).bind _ = _
  rw [Text.withoutEnding?_append, Option.bind_some, trimChars_digits, amountOf?,
    DecimalText.real?_of_digits Nat.toDigits_ne_nil digits, DecimalText.digitsValue_toDigits]
  simp [Binary64.isFinite_ofNat gibibytes.toNat_lt]

theorem wholeGibibytes_render (fits : gibibytes.toNat < 2 ^ 53) :
    wholeGibibytes (render gibibytes) = gibibytes := by
  have bounded : gibibytes.toNat ≤ maxUnsigned := Nat.le_sub_one_of_lt gibibytes.toNat_lt
  simp only [wholeGibibytes, parse?_render, Amount.wholeGibibytes,
    Binary64.floor_ofNat fits, clampUnsigned, Nat.min_eq_left bounded, UInt64.ofNat_toNat]

/-! ### The size of a model -/

theorem toNat_gibibytesOf (bytes : UInt64) :
    (gibibytesOf bytes).toNat = (bytes.toNat + (2 ^ 30 - 1)) / 2 ^ 30 := by
  have range := bytes.toNat_lt
  apply UInt64.toNat_ofNat_of_lt'
  simp only [gibibyte, Nat.pow_eq, UInt64.size]
  omega

theorem gibibytesOf_le (bytes : UInt64) : (gibibytesOf bytes).toNat ≤ 2 ^ 34 := by
  have range := bytes.toNat_lt
  rw [toNat_gibibytesOf]
  omega

theorem toNat_gibibytesOf_eq_ceilDiv (bytes : UInt64) :
    (gibibytesOf bytes).toNat = bytes.toNat ⌈/⌉ 2 ^ 30 := by
  rw [toNat_gibibytesOf, Nat.ceilDiv_eq_add_pred_div, Nat.add_sub_assoc (Nat.two_pow_pos 30)]

/-- The size of a model is the least whole number of gibibytes that holds its weights. -/
theorem isLeast_ceilDiv (bytes : Nat) :
    IsLeast {whole | bytes ≤ whole * 2 ^ 30} (bytes ⌈/⌉ 2 ^ 30) := by
  have rounded (whole : Nat) : bytes ⌈/⌉ 2 ^ 30 ≤ whole ↔ bytes ≤ whole * 2 ^ 30 := by
    rw [ceilDiv_le_iff_le_mul (Nat.two_pow_pos 30), Nat.mul_comm]
  exact ⟨(rounded _).mp le_rfl, fun whole holds => (rounded whole).mpr holds⟩

theorem ofBytes_eq (bytes : UInt64) :
    ofBytes bytes = DecimalText.render (bytes.toNat ⌈/⌉ 2 ^ 30) ++ "Gi" := by
  rw [ofBytes, render, toNat_gibibytesOf_eq_ceilDiv]

theorem wholeGibibytes_ofBytes (bytes : UInt64) :
    wholeGibibytes (ofBytes bytes) = gibibytesOf bytes := by
  have bounded := gibibytesOf_le bytes
  exact wholeGibibytes_render (by omega)

def diskFor (bytes : UInt64) : String :=
  render (gibibytesOf bytes + reserve)

theorem toNat_reserve : reserve.toNat = 50 := rfl

theorem toNat_gibibytesOf_add_reserve (bytes : UInt64) :
    (gibibytesOf bytes + reserve).toNat = bytes.toNat ⌈/⌉ 2 ^ 30 + 50 := by
  have bounded := gibibytesOf_le bytes
  rw [UInt64.toNat_add, toNat_reserve, ← toNat_gibibytesOf_eq_ceilDiv]
  omega

theorem diskFor_eq (bytes : UInt64) :
    diskFor bytes = DecimalText.render (bytes.toNat ⌈/⌉ 2 ^ 30 + 50) ++ "Gi" := by
  rw [diskFor, render, toNat_gibibytesOf_add_reserve]

theorem toNat_wholeGibibytes_diskFor (bytes : UInt64) :
    (wholeGibibytes (diskFor bytes)).toNat = bytes.toNat ⌈/⌉ 2 ^ 30 + 50 := by
  have bounded := gibibytesOf_le bytes
  have sum := toNat_gibibytesOf_add_reserve bytes
  rw [toNat_gibibytesOf_eq_ceilDiv] at bounded
  rw [diskFor, wholeGibibytes_render (by omega), sum]

/-- The disk for the weights of a model is always a quantity. -/
theorem withReserve_ofBytes (bytes : UInt64) :
    withReserve (ofBytes bytes) = .ok (diskFor bytes) := by
  have bounded := gibibytesOf_le bytes
  have fits : (gibibytesOf bytes).toNat + reserve.toNat ≤ maxUnsigned := by
    have greatest : maxUnsigned = 2 ^ 64 - 1 := rfl
    rw [toNat_reserve]
    omega
  rw [withReserve, wholeGibibytes_ofBytes, addUnsigned, if_pos fits]
  rfl

end Quantity

end ServingPreset
