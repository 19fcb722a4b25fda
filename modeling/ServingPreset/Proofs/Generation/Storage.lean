import ServingPreset.Preset.Summary
import ServingPreset.Proofs.Generation.Serving
import ServingPreset.Proofs.Quantity
import ServingPreset.Proofs.Weights

/-!
# Storage of generated presets

The size of a model goes from bytes to text and back twice: for the disk of the preset, and
for the number that its summary shows. Both ways give the number of gibibytes that was
written, so the disk is that number and the reserve, and has room for the selected files.
-/

namespace ServingPreset

namespace Summary

theorem toNat_modelFileGibibytes {preset : Preset} {bytes : UInt64}
    (sized : preset.card.modelFileSize = Quantity.ofBytes bytes) :
    (ofPreset preset).modelFileGibibytes.toNat = bytes.toNat ⌈/⌉ 2 ^ 30 := by
  rw [ofPreset, sized, Quantity.wholeGibibytes_ofBytes, Quantity.toNat_gibibytesOf_eq_ceilDiv]

end Summary

namespace Generation

variable {hub : Hub} {repository : Repository} {weights : Weights} {config : ConfigDocument}
  {preset : Preset}

theorem Assembled.exists_total (assembled : Assembled hub repository weights config preset) :
    ∃ total : UInt64, total.toNat = weights.bytes ∧
      preset.card.modelFileSize = Quantity.ofBytes total ∧
      preset.card.diskRequirement = Quantity.diskFor total := by
  rcases assembled.sized with ⟨total, disk, cache, summed, reserved, _, _, card⟩
  rw [Quantity.withReserve_ofBytes] at reserved
  refine ⟨total, Weights.toNat_of_totalBytes summed, ?_, ?_⟩
  · rw [card]
  · rw [card]
    exact (Except.ok.inj reserved).symm

/--
The size of a model is the least whole number of gibibytes that holds its bytes, in the text
of the preset as in its summary. The disk is 50 gibibytes more, which a generated preset
therefore has on top of the files that were selected.
-/
theorem sizes_survive_their_text :
    (∀ bytes : UInt64,
      let count := bytes.toNat ⌈/⌉ 2 ^ 30
      IsLeast {whole | bytes.toNat ≤ whole * 2 ^ 30} count ∧
        Quantity.ofBytes bytes = DecimalText.render count ++ "Gi" ∧
        Quantity.withReserve (Quantity.ofBytes bytes) =
          .ok (DecimalText.render (count + 50) ++ "Gi") ∧
        ∀ preset : Preset, preset.card.modelFileSize = Quantity.ofBytes bytes →
          (Summary.ofPreset preset).modelFileGibibytes.toNat = count) ∧
    ∀ hub repository preset, (run hub repository).result = .ok preset →
      ∃ weights, fetchWeights hub repository = .ok weights ∧
        let shown := (Summary.ofPreset preset).modelFileGibibytes.toNat
        preset.card.diskRequirement = DecimalText.render (shown + 50) ++ "Gi" ∧
          (Quantity.wholeGibibytes preset.card.diskRequirement).toNat = shown + 50 ∧
          weights.bytes + 50 * 2 ^ 30 ≤ (shown + 50) * 2 ^ 30 := by
  constructor
  · intro bytes count
    refine ⟨Quantity.isLeast_ceilDiv bytes.toNat, Quantity.ofBytes_eq bytes, ?_, ?_⟩
    · rw [Quantity.withReserve_ofBytes, Quantity.diskFor_eq]
    · intro preset sized
      exact Summary.toNat_modelFileGibibytes sized
  · intro hub repository preset generated
    rcases run_eq_ok_iff.mp generated with ⟨weights, config, selected, _, made⟩
    rcases (assembled_of_assemble made).exists_total with ⟨total, summed, sized, disk⟩
    refine ⟨weights, selected, ?_⟩
    intro shown
    have count : shown = total.toNat ⌈/⌉ 2 ^ 30 := Summary.toNat_modelFileGibibytes sized
    refine ⟨?_, ?_, ?_⟩
    · rw [disk, count, Quantity.diskFor_eq]
    · rw [disk, count, Quantity.toNat_wholeGibibytes_diskFor]
    · have holds : total.toNat ≤ shown * 2 ^ 30 := count ▸ (Quantity.isLeast_ceilDiv _).1
      omega

open SmallHub in
/-- One byte more than a gibibyte makes two of them. -/
theorem sizes_survive_their_text_consolidated :
    ∃ preset, (run tokenHub ⟨"org/Qwen3-Open"⟩).result = .ok preset ∧
      preset.card.modelFileSize = Quantity.ofBytes 1073741825 ∧
      (Summary.ofPreset preset).modelFileGibibytes.toNat = 2 ∧
      preset.card.diskRequirement = "52Gi" := by
  have sizes : (run tokenHub ⟨"org/Qwen3-Open"⟩).result.toOption.map
      (fun preset => preset.card.modelFileSize) = some (Quantity.ofBytes 1073741825) := by
    decide +kernel
  cases generated : (run tokenHub ⟨"org/Qwen3-Open"⟩).result with
  | error failure =>
      rw [generated] at sizes
      contradiction
  | ok preset =>
      rw [generated] at sizes
      have sized : preset.card.modelFileSize = Quantity.ofBytes 1073741825 := Option.some.inj sizes
      rcases sizes_survive_their_text with ⟨written, served⟩
      have shown : (Summary.ofPreset preset).modelFileGibibytes.toNat = 2 :=
        (written 1073741825).2.2.2 preset sized
      rcases served tokenHub ⟨"org/Qwen3-Open"⟩ preset generated with ⟨_, _, disk, _⟩
      rw [shown] at disk
      exact ⟨preset, rfl, sized, shown, disk⟩

end Generation

end ServingPreset
