import ServingPreset.Proofs.Generation.Route
import ServingPreset.Proofs.Launch
import ServingPreset.Proofs.OutputParser
import ServingPreset.ServedModel

/-!
# Served as generated

The model of a generated preset is launched as the preset says. The model derives its flags
from the card again and lays those of the preset over them. As the flags of the preset
contain all that follow from the card, they absorb the derived ones
(`ServedModel.flags_ofPreset`).
-/

namespace ServingPreset

namespace ServedModel

variable {preset : Preset}

/-- Flags that extend those of the card are the flags of the model. -/
theorem flags_ofPreset {additions : List (String × String)}
    (extended : preset.launch.flags = (Launch.servingFlags preset.card).insertAll additions) :
    (ofPreset preset).flags = preset.launch.flags := by
  refine NameMap.override_eq_overlay fun name missing => ?_
  rw [ofPreset, extended] at missing
  exact NameMap.get?_eq_none_of_insertAll missing

end ServedModel

namespace Generation

variable {hub : Hub} {repository : Repository} {weights : Weights} {config : ConfigDocument}
  {preset : Preset}

/-- What an assembled preset consists of. -/
structure Assembled (hub : Hub) (repository : Repository) (weights : Weights)
    (config : ConfigDocument) (preset : Preset) : Prop where
  sized : ∃ total disk cache, weights.totalBytes = .ok total ∧
    Quantity.withReserve (Quantity.ofBytes total) = .ok disk ∧
    (AttentionShape.ofConfig config).footprint = .ok cache ∧
    preset.attention = cache.kind ∧
    preset.card = { describe hub repository config with
      modelFileSize := Quantity.ofBytes total
      diskRequirement := disk
      bytesPerToken := cache.bytesPerToken }
  launched : preset.launch = {
    baseCommand := Launch.command
    modelName := preset.card.name
    flags := (Launch.servingFlags preset.card).insertAll weights.layout.flags
    disallowLora := false
    leaderCommand := Launch.leaderCommand
    workerCommand := Launch.workerCommand }

theorem exists_of_isOk {Failure Value : Type} {outcome : Except Failure Value}
    (done : outcome.isOk = true) : ∃ value, outcome = .ok value := by
  cases outcome with
  | error failure => contradiction
  | ok value => exact ⟨value, rfl⟩

theorem exists_of_bind_eq_ok {Failure First Second : Type} {outcome : Except Failure First}
    {next : First → Except Failure Second} {given : Second} (done : outcome >>= next = .ok given) :
    ∃ first, outcome = .ok first ∧ next first = .ok given := by
  cases outcome with
  | error failure => contradiction
  | ok first => exact ⟨first, rfl, done⟩

theorem assembled_of_assemble (made : assemble hub repository weights config = .ok preset) :
    Assembled hub repository weights config preset := by
  rcases exists_of_bind_eq_ok made with ⟨total, summed, made⟩
  rcases exists_of_bind_eq_ok made with ⟨disk, reserved, made⟩
  rcases exists_of_bind_eq_ok made with ⟨cache, analyzed, made⟩
  have same := Except.ok.inj made
  rw [← same]
  exact ⟨⟨total, disk, cache, summed, reserved, analyzed, rfl, rfl⟩, rfl⟩

theorem exists_assembled_of_run (generated : (run hub repository).result = .ok preset) :
    ∃ weights config, fetchWeights hub repository = .ok weights ∧
      fetchConfig hub repository weights = .ok config ∧
      Assembled hub repository weights config preset := by
  rcases run_eq_ok_iff.mp generated with ⟨weights, config, selected, configured, made⟩
  exact ⟨weights, config, selected, configured, assembled_of_assemble made⟩

namespace Assembled

/-- All but the sizes is on the card as the name and the configuration give it. -/
theorem exists_card_eq (assembled : Assembled hub repository weights config preset) :
    ∃ size disk bytes, preset.card = { describe hub repository config with
      modelFileSize := size, diskRequirement := disk, bytesPerToken := bytes } := by
  rcases assembled.sized with ⟨total, disk, cache, _, _, _, _, card⟩
  exact ⟨_, _, _, card⟩

theorem inference_launch (assembled : Assembled hub repository weights config preset) :
    (ServedModel.ofPreset preset).inference.launch = preset.launch := by
  have flags : (ServedModel.ofPreset preset).flags = preset.launch.flags :=
    ServedModel.flags_ofPreset (by rw [assembled.launched])
  rw [ServedModel.inference, flags, assembled.launched]
  rfl

/-- Only the kind of model, the runtime and the parsers differ on the card it is served with. -/
theorem inference_card (assembled : Assembled hub repository weights config preset) :
    (ServedModel.ofPreset preset).inference.card =
      { preset.card with modelType := "text-generation", runtime := "tfs",
                         reasoningParser := "", toolCallParser := "" } := by
  rcases assembled.exists_card_eq with ⟨size, disk, bytes, card⟩
  simp only [ServedModel.inference, ServedModel.servingCard, ServedModel.ofPreset,
    ServedModel.ofCard, card]
  rfl

end Assembled

/--
The model of a generated preset is launched with the commands and flags of the preset, and
keeps the facts of its card. The flags are those of the card and those of the weight layout,
each under a name of its own.
-/
theorem inference_of_generated (hub : Hub) (repository : Repository) (preset : Preset)
    (generated : (run hub repository).result = .ok preset) :
    let model := ServedModel.ofPreset preset
    model.inference.launch = preset.launch ∧
      model.inference.attention = preset.attention ∧
      model.inference.card = { preset.card with modelType := "text-generation", runtime := "tfs",
                                                reasoningParser := "", toolCallParser := "" } ∧
      model.commandLine = Launch.commandLine preset.launch.baseCommand preset.launch.flags ∧
      ∃ weights, fetchWeights hub repository = .ok weights ∧
        preset.launch.flags.entries.Perm
          ((Launch.servingFlags preset.card).entries ++ weights.layout.flags) ∧
        ((Launch.servingFlags preset.card).names ++ weights.layout.flags.map Prod.fst).Nodup := by
  intro model
  rcases run_eq_ok_iff.mp generated with ⟨weights, config, selected, _, made⟩
  have assembled := assembled_of_assemble made
  have launch : model.inference.launch = preset.launch := assembled.inference_launch
  refine ⟨launch, rfl, assembled.inference_card, ?_, weights, selected, ?_, ?_⟩
  · rw [ServedModel.commandLine, launch]
  · rw [assembled.launched]
    exact Launch.entries_insertAll_flags preset.card weights.layout
  · exact Launch.nodup_names_append_flags preset.card weights.layout

open SmallHub in
/-- The consolidated checkpoint of a small hub is launched with all flags of its preset. -/
theorem inference_of_generated_consolidated :
    ∃ preset, (run tokenHub ⟨"org/Qwen3-Open"⟩).result = .ok preset ∧
      (ServedModel.ofPreset preset).commandLine =
        "python3 /workspace/vllm/inference_api.py --config_format=mistral --dtype=bfloat16" ++
          " --enable-auto-tool-choice --load_format=mistral --reasoning-parser=qwen3" ++
          " --tokenizer_mode=mistral --tool-call-parser=hermes --trust-remote-code" := by
  have described : describe tokenHub ⟨"org/Qwen3-Open"⟩ ⟨latentMembers⟩ =
      { name := "qwen3-open", modelType := "tfs"
        version := "https://huggingface.co/org/Qwen3-Open"
        downloadAtRuntime := true, tokenLimit := 2048
        reasoningParser := "qwen3", toolCallParser := "hermes" } := by
    -- Sorting a table does not compute by unfolding, so it goes first.
    simp only [describe, OutputParser.reasoning, OutputParser.toolCall,
      OutputParser.select_of_ordered OutputParser.pairwise_reasoningTable,
      OutputParser.select_of_ordered OutputParser.pairwise_toolCallTable]
    decide +kernel
  have printed :
      (assemble tokenHub ⟨"org/Qwen3-Open"⟩ tokenWeights ⟨latentMembers⟩).toOption.map (fun preset =>
          Launch.commandLine preset.launch.baseCommand preset.launch.flags) =
        some ("python3 /workspace/vllm/inference_api.py --config_format=mistral --dtype=bfloat16" ++
          " --enable-auto-tool-choice --load_format=mistral --reasoning-parser=qwen3" ++
          " --tokenizer_mode=mistral --tool-call-parser=hermes --trust-remote-code") := by
    rw [assemble, described]
    decide +kernel
  cases made : assemble tokenHub ⟨"org/Qwen3-Open"⟩ tokenWeights ⟨latentMembers⟩ with
  | error fault =>
      rw [made] at printed
      contradiction
  | ok preset =>
      have generated := run_eq_ok_iff.mpr
        ⟨tokenWeights, ⟨latentMembers⟩, fetchWeights_tokenHub, fetchConfig_tokenHub, made⟩
      rcases inference_of_generated tokenHub ⟨"org/Qwen3-Open"⟩ preset generated with
        ⟨_, _, _, commandLine, _⟩
      rw [made] at printed
      exact ⟨preset, generated, commandLine.trans (Option.some.inj printed)⟩

end Generation

end ServingPreset
