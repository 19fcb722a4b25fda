import ServingPreset.Launch

/-!
# Served models

A model that is ready to be served: its card and attention mechanism, and the flags
that were decided when its preset was generated. Those flags overrule the ones that
follow from the card.
-/

namespace ServingPreset

/-- A model that the runtime serves from the weights of a hub. -/
structure ServedModel where
  card : ModelCard
  attention : AttentionKind
  /-- The flags that overrule those of the card. -/
  overrides : NameMap String
deriving DecidableEq, Inhabited

namespace ServedModel

/-- The model of a card alone. -/
def ofCard (card : ModelCard) (attention : AttentionKind) : ServedModel :=
  ⟨card, attention, NameMap.empty⟩

/-- The model of a preset, which keeps the flags of the preset. -/
def ofPreset (preset : Preset) : ServedModel :=
  { ofCard preset.card preset.attention with overrides := preset.launch.flags }

/-- The number of seconds until a served model has to be ready. -/
def readinessSeconds : UInt64 := 1800

/-- The facts of the model that serving it depends on. -/
def servingCard (model : ServedModel) : ModelCard where
  name := model.card.name
  architectures := model.card.architectures
  modelType := "text-generation"
  version := model.card.version
  runtime := "tfs"
  downloadAtRuntime := true
  downloadAuthRequired := model.card.downloadAuthRequired
  modelFileSize := model.card.modelFileSize
  diskRequirement := model.card.diskRequirement
  bytesPerToken := model.card.bytesPerToken
  tokenLimit := model.card.tokenLimit

/-- The flags that the model is served with. -/
def flags (model : ServedModel) : NameMap String :=
  (Launch.servingFlags model.card).override model.overrides

/-- The preset under which the model answers requests. -/
def inference (model : ServedModel) : Preset where
  card := model.servingCard
  attention := model.attention
  launch := {
    baseCommand := Launch.command
    modelName := model.servingCard.name
    flags := model.flags
    disallowLora := false
    leaderCommand := Launch.leaderCommand
    workerCommand := Launch.workerCommand }
  readinessSeconds := readinessSeconds

/-- The preset under which the model is tuned: there is none. -/
def tuning (_model : ServedModel) : Option Preset :=
  none

/-- Whether a group of machines can serve the model together. -/
def supportsDistribution (_model : ServedModel) : Bool :=
  true

/-- Whether the model can be tuned. -/
def supportsTuning (model : ServedModel) : Bool :=
  model.tuning.isSome

/-- The command line that serves the model. -/
def commandLine (model : ServedModel) : String :=
  Launch.commandLine model.inference.launch.baseCommand model.inference.launch.flags

end ServedModel

end ServingPreset
