import ServingPreset.KvCache
import ServingPreset.NameMap

/-!
# Presets

The records that say how a model is served: a card with its descriptive and sizing
facts, and the launch parameters of the runtime.
-/

namespace ServingPreset

/-- The descriptive and sizing facts of a model. -/
structure ModelCard where
  name : String := ""
  architectures : List String := []
  modelType : String := ""
  version : String := ""
  runtime : String := ""
  downloadAtRuntime : Bool := false
  downloadAuthRequired : Bool := false
  /-- The number format of the weights, empty for the one of the runtime. -/
  dtype : String := ""
  /-- The chat template, by its file name. -/
  chatTemplate : String := ""
  allowRemoteFiles : Bool := false
  modelFileSize : String := ""
  diskRequirement : String := ""
  bytesPerToken : UInt64 := 0
  /-- The number of tokens that the model attends to. -/
  tokenLimit : UInt64 := 0
  /-- The parser of reasoning segments, empty for none. -/
  reasoningParser : String := ""
  /-- The parser of tool calls, empty for none. -/
  toolCallParser : String := ""
deriving DecidableEq, Inhabited

/-- How the runtime is launched. -/
structure LaunchSpec where
  baseCommand : String := ""
  modelName : String := ""
  /-- The flags of the runtime; a flag with an empty value is a switch. -/
  flags : NameMap String := NameMap.empty
  disallowLora : Bool := false
  leaderCommand : String := ""
  workerCommand : String := ""
deriving DecidableEq, Inhabited

/-- How one model is served. -/
structure Preset where
  card : ModelCard := {}
  attention : AttentionKind := .unknown
  launch : LaunchSpec := {}
  readinessSeconds : UInt64 := 0
deriving DecidableEq, Inhabited

end ServingPreset
