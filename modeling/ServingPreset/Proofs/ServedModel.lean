import ServingPreset.Proofs.Launch
import ServingPreset.ServedModel

/-!
# Rebuilding a served model

A served model can be rebuilt from the preset under which it answers. That preset has lost
parts of the card: the number format, the chat template, the remote files and both parsers.
Their flags are in the preset, though, and the flags of a preset overrule those that are
derived again. All that is derived again from the poorer card are the flags that every card
brings along (`Launch.requiredFlags`), and the preset has these already, with the values that
they were given first.
-/

namespace ServingPreset

namespace ServedModel

theorem get?_flags (model : ServedModel) (name : String) :
    model.flags.get? name =
      (model.overrides.get? name).or ((Launch.servingFlags model.card).get? name) :=
  NameMap.get?_override _ _ _

/-- The card that a model is served with states no flag besides those that are required. -/
theorem servingFlags_servingCard (model : ServedModel) :
    Launch.servingFlags model.servingCard =
      NameMap.ofList (Launch.requiredFlags model.servingCard) := rfl

theorem flags_rebuilt (model : ServedModel) : (ofPreset model.inference).flags = model.flags := by
  apply NameMap.override_eq_overlay
  intro name (missing : model.flags.get? name = none)
  rw [get?_flags, Option.or_eq_none_iff] at missing
  have unrequired := Launch.notMem_requiredFlagNames missing.2
  change (Launch.servingFlags model.servingCard).get? name = none
  rw [servingFlags_servingCard]
  exact (NameMap.get?_insertAll_of_notMem unrequired).trans (NameMap.get?_empty name)

/--
A model that is rebuilt from the preset under which it answers gives that preset and that
command line again. The flags of the model of any preset are those of the preset, and where
it has none, those of its card.
-/
theorem inference_rebuilt :
    (∀ model : ServedModel,
      (ofPreset model.inference).inference = model.inference ∧
        (ofPreset model.inference).commandLine = model.commandLine) ∧
    ∀ (preset : Preset) (name : String),
      (ofPreset preset).inference.launch.flags.get? name =
        (preset.launch.flags.get? name).or ((Launch.servingFlags preset.card).get? name) := by
  constructor
  · intro model
    have same : (ofPreset model.inference).inference = model.inference := by
      rw [inference, flags_rebuilt]
      rfl
    refine ⟨same, ?_⟩
    rw [commandLine, same, commandLine]
  · intro preset name
    exact get?_flags (ofPreset preset) name

/-- The flag of a parser outlives the parser on the card. -/
example :
    let model := ofPreset (ofCard { reasoningParser := "qwen3" } default).inference
    model.card.reasoningParser = "" ∧
      model.commandLine = "python3 /workspace/vllm/inference_api.py --dtype=bfloat16" ++
        " --reasoning-parser=qwen3 --trust-remote-code" := by
  decide +kernel

end ServedModel

end ServingPreset
