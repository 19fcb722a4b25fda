import ServingPreset.Proofs.Number.RealText
import ServingPreset.Proofs.Quantity

/-!
# The disk for any quantity

Every text has a disk requirement or leaves the range of words. A text that denotes a finite
number, not below zero, needs as many whole gibibytes as that number has, and the reserve; every
other text needs the reserve alone. The number saturates at the greatest word before the reserve
is added, and the spacing of the numbers keeps it far below that word unless it is at least
`2 ^ 64`, so the sum leaves the range exactly from there on.
-/

namespace ServingPreset

namespace Quantity

variable {text disk : String} {chars : List Char} {real : DecimalText.Real} {amount : Amount}
  {negative : Bool} {magnitude : Binary64}

/-- The text is a floating-point number and the unit, with white space around either. -/
def Denotes (text : String) (real : DecimalText.Real) : Prop :=
  ∃ number, Text.trimChars text.toList = number ++ "Gi".toList ∧
    DecimalText.SpellsReal (Text.trimChars number) real

/-- A number that is finite and not below zero. -/
def IsAmount : DecimalText.Real → Prop
  | .number negative magnitude =>
      magnitude.isFinite = true ∧ (negative = true → magnitude.toRat = 0)
  | .undefined => False

def Amount.toReal (amount : Amount) : DecimalText.Real :=
  .number amount.negative amount.magnitude

theorem IsAmount.isFinite (whole : IsAmount real) : real.IsFinite := by
  cases real with
  | number _ _ => exact whole.1
  | undefined => exact whole

/-! ### Reading any quantity -/

theorem amountOf?_eq_some_iff :
    amountOf? chars = some amount ↔
      DecimalText.real? chars = some amount.toReal ∧ IsAmount amount.toReal := by
  have accepts (negative : Bool) (magnitude : Binary64) :
      (magnitude.isFinite && (!negative || magnitude = Binary64.zero)) = true ↔
        IsAmount (.number negative magnitude) := by
    cases negative <;> simp [IsAmount, Binary64.toRat_eq_zero_iff]
  rw [amountOf?]
  rcases DecimalText.real? chars with _ | ⟨negative, magnitude⟩ | _
  · simp
  · dsimp only
    constructor
    · intro read
      split at read
      · next whole =>
          cases read
          exact ⟨rfl, (accepts _ _).mp whole⟩
      · contradiction
    · rintro ⟨same, whole⟩
      cases same
      exact if_pos ((accepts _ _).mpr whole)
  · simp [Amount.toReal]

theorem parse?_eq_some_iff :
    parse? text = some amount ↔ Denotes text amount.toReal ∧ IsAmount amount.toReal := by
  constructor
  · intro parsed
    rcases Option.bind_eq_some_iff.mp parsed with ⟨number, found, read⟩
    rcases amountOf?_eq_some_iff.mp read with ⟨read, whole⟩
    exact ⟨⟨number, Text.withoutEnding?_eq_some_iff.mp found,
      DecimalText.spellsReal_of_real? read⟩, whole⟩
  · rintro ⟨⟨number, found, spelled⟩, whole⟩
    rw [parse?, Text.withoutEnding?_eq_some_iff.mpr found, Option.bind_some,
      amountOf?_eq_some_iff]
    rcases DecimalText.real?_of_spellsReal spelled with ⟨read, found, rfl | ⟨_, infinite⟩⟩
    · exact ⟨found, whole⟩
    · exact absurd whole.isFinite infinite

theorem parse?_eq_none (denotes : Denotes text real) (rejected : ¬IsAmount real) :
    parse? text = none := by
  rcases denotes with ⟨number, found, spelled⟩
  rw [parse?, Text.withoutEnding?_eq_some_iff.mpr found, Option.bind_some,
    Option.eq_none_iff_forall_ne_some]
  intro amount read
  rcases amountOf?_eq_some_iff.mp read with ⟨read, whole⟩
  rcases DecimalText.real?_of_spellsReal spelled with ⟨other, again, same⟩
  rw [read] at again
  cases again
  rcases same with rfl | ⟨infinite, _⟩
  · exact rejected whole
  · exact infinite whole.isFinite

/-! ### Adding the reserve -/

theorem withReserve_of_unparsed (unparsed : parse? text = none) :
    withReserve text = .ok "50Gi" := by
  simp only [withReserve, wholeGibibytes, unparsed]
  rfl

theorem exists_sum_of_room (room : (wholeGibibytes text).toNat + 50 ≤ maxUnsigned) :
    ∃ sum : UInt64, withReserve text = .ok (render sum) ∧
      sum.toNat = (wholeGibibytes text).toNat + 50 := by
  rw [← toNat_reserve] at room
  rcases exists_sum_of_le room with ⟨sum, added, total⟩
  refine ⟨sum, ?_, total⟩
  rw [withReserve, added]
  rfl

theorem withReserve_of_full (full : maxUnsigned < (wholeGibibytes text).toNat + 50) :
    withReserve text = .error .additionOverflow := by
  rw [withReserve, addUnsigned_of_lt full]
  rfl

/-- Below the end of the range there is room for the reserve, and from there on there is none. -/
theorem withReserve_of_parsed (parsed : parse? text = some ⟨negative, magnitude⟩) :
    withReserve text =
      if magnitude.toRat < 2 ^ 64 then
        .ok (DecimalText.render (⌊magnitude.toRat⌋₊ + 50) ++ "Gi")
      else .error .additionOverflow := by
  have whole : (wholeGibibytes text).toNat = min magnitude.floor maxUnsigned := by
    simp only [wholeGibibytes, parsed, Amount.wholeGibibytes, toNat_clampUnsigned]
  have greatest : maxUnsigned = 2 ^ 64 - 1 := rfl
  simp only [← Binary64.floor_lt_two_pow_iff, Binary64.natFloor_toRat]
  split
  · next below =>
      have spaced : magnitude.floor + 2 ^ 11 ≤ 2 ^ 64 := Binary64.floor_add_le_of_lt 11 below
      have room : (wholeGibibytes text).toNat + 50 ≤ maxUnsigned := by omega
      rcases exists_sum_of_room room with ⟨sum, needed, total⟩
      have unheld : sum.toNat = magnitude.floor + 50 := by omega
      rw [needed, render, unheld]
  · apply withReserve_of_full
    omega

theorem exists_render_of_withReserve (needed : withReserve text = .ok disk) :
    ∃ gibibytes : UInt64, disk = render gibibytes ∧ 50 ≤ gibibytes.toNat := by
  rcases Nat.lt_or_ge maxUnsigned ((wholeGibibytes text).toNat + 50) with full | room
  · rw [withReserve_of_full full] at needed
    contradiction
  · rcases exists_sum_of_room room with ⟨sum, written, total⟩
    rw [written] at needed
    cases needed
    exact ⟨sum, rfl, by omega⟩

/-- What was written for at least the reserve is read as no less. -/
theorem reserve_le_toRat {gibibytes : UInt64} (reserved : 50 ≤ gibibytes.toNat) :
    50 ≤ (Binary64.ofNat gibibytes.toNat).toRat := by
  have least : (Binary64.ofNat 50).toRat = (50 : ℕ) := Binary64.toRat_ofNat (by decide)
  have below : (Binary64.ofNat 50).toRat ≤ gibibytes.toNat := by
    rw [least]
    exact_mod_cast reserved
  have kept := (Binary64.isRounded_ofNat gibibytes.toNat).toRat_le
    (Binary64.isFinite_ofNat gibibytes.toNat_lt) (Binary64.isFinite_ofNat (by decide)) below
  rw [least] at kept
  exact_mod_cast kept

/-! ### Any text -/

/-- The requirement of a text is that of the number it denotes, and no less than the reserve. -/
theorem withReserve_of_any_text (text : String) :
    ((∀ real, ¬Denotes text real) → withReserve text = .ok "50Gi") ∧
      (∀ real, Denotes text real → ¬IsAmount real → withReserve text = .ok "50Gi") ∧
      (∀ negative magnitude, Denotes text (.number negative magnitude) →
        IsAmount (.number negative magnitude) →
          withReserve text =
            if magnitude.toRat < 2 ^ 64 then
              .ok (DecimalText.render (⌊magnitude.toRat⌋₊ + 50) ++ "Gi")
            else .error .additionOverflow) ∧
      ∀ disk, withReserve text = .ok disk →
        ∃ amount, parse? disk = some amount ∧ amount.negative = false ∧
          50 ≤ amount.magnitude.toRat := by
  refine ⟨?_, ?_, ?_, ?_⟩
  · intro undenoted
    apply withReserve_of_unparsed
    rw [Option.eq_none_iff_forall_ne_some]
    intro amount parsed
    exact undenoted _ (parse?_eq_some_iff.mp parsed).1
  · intro real denotes rejected
    exact withReserve_of_unparsed (parse?_eq_none denotes rejected)
  · intro negative magnitude denotes whole
    have parsed : parse? text = some ⟨negative, magnitude⟩ :=
      parse?_eq_some_iff.mpr ⟨denotes, whole⟩
    exact withReserve_of_parsed parsed
  · intro disk needed
    rcases exists_render_of_withReserve needed with ⟨gibibytes, rfl, reserved⟩
    exact ⟨_, parse?_render gibibytes, rfl, reserve_le_toRat reserved⟩

theorem withReserve_of_any_text_limits :
    withReserve "\t2.5 Gi" = .ok "52Gi" ∧
      withReserve "18446744073709550591Gi" = .ok "18446744073709549618Gi" ∧
      withReserve "18446744073709550592Gi" = .error .additionOverflow ∧
      withReserve "-1e0Gi" = .ok "50Gi" ∧ withReserve "+1e309Gi" = .ok "50Gi" ∧
      withReserve "2.5G" = .ok "50Gi" := by
  have denotes {text : String} {real : DecimalText.Real} (number : List Char)
      (cut : Text.trimChars text.toList = number ++ "Gi".toList)
      (read : DecimalText.real? (Text.trimChars number) = some real) : Denotes text real :=
    ⟨number, cut, DecimalText.spellsReal_of_real? read⟩
  have needs {text : String} {magnitude : Binary64} (finite : magnitude.isFinite = true)
      (denoted : Denotes text (.number false magnitude)) :=
    (withReserve_of_any_text text).2.2.1 false magnitude denoted ⟨finite, fun sign => nomatch sign⟩
  simp only [← Binary64.floor_lt_two_pow_iff, Binary64.natFloor_toRat] at needs
  refine ⟨?_, ?_, ?_, ?_, ?_, ?_⟩
  · have half : Denotes "\t2.5 Gi" (.number false ⟨4612811918334230528⟩) :=
      denotes "2.5 ".toList (by decide) (by decide +kernel)
    rw [needs (by decide) half]
    decide +kernel
  · have greatest : Denotes "18446744073709550591Gi" (.number false ⟨4895412794951729151⟩) :=
      denotes "18446744073709550591".toList (by decide) (by decide +kernel)
    rw [needs (by decide) greatest]
    decide +kernel
  · have next : Denotes "18446744073709550592Gi" (.number false ⟨4895412794951729152⟩) :=
      denotes "18446744073709550592".toList (by decide) (by decide +kernel)
    rw [needs (by decide) next]
    decide +kernel
  · have negative : Denotes "-1e0Gi" (.number true ⟨4607182418800017408⟩) :=
      denotes "-1e0".toList (by decide) (by decide +kernel)
    refine (withReserve_of_any_text _).2.1 _ negative fun whole => ?_
    exact absurd (Binary64.toRat_eq_zero_iff.mp (whole.2 rfl)) (by decide)
  · have infinite : Denotes "+1e309Gi" (.number false ⟨9229635062979803848⟩) :=
      denotes "+1e309".toList (by decide) (by decide +kernel)
    exact (withReserve_of_any_text _).2.1 _ infinite fun whole => absurd whole.1 (by decide)
  · have unitless : Text.withoutEnding? "Gi".toList (Text.trimChars "2.5G".toList) = none := by
      decide
    apply (withReserve_of_any_text _).1
    rintro real ⟨number, cut, _⟩
    rw [← Text.withoutEnding?_eq_some_iff, unitless] at cut
    contradiction

end Quantity

end ServingPreset
