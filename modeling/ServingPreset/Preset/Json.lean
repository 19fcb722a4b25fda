import ServingPreset.Json.Fields
import ServingPreset.Preset.Basic

/-!
# Presets as JSON

The objects that state cards, launch parameters and presets, and the decoding of
cards and launch parameters. Some fields have to be stated; the others have a default.
-/

namespace ServingPreset

open Json (Value)

namespace ModelCard

/-- The names of the fields of a card, in declaration order. -/
def fieldNames : List String :=
  ["name", "architectures", "model_type", "version", "runtime", "download_at_runtime",
    "download_auth_required", "dtype", "chat_template", "allow_remote_files", "model_file_size",
    "disk_storage_requirement", "bytes_per_token", "model_token_limit", "reasoning_parser",
    "tool_call_parser"]

/-- The card that a value states. -/
def ofJson? (value : Value) : Option ModelCard := do
  let source ← value.fields? fieldNames
  return {
    name := ← source.required "name" Value.string?
    architectures := ← source.defaulted "architectures" [] Value.strings?
    modelType := ← source.required "model_type" Value.string?
    version := ← source.required "version" Value.string?
    runtime := ← source.defaulted "runtime" "" Value.string?
    downloadAtRuntime := ← source.required "download_at_runtime" Value.bool?
    downloadAuthRequired := ← source.required "download_auth_required" Value.bool?
    dtype := ← source.defaulted "dtype" "" Value.string?
    chatTemplate := ← source.defaulted "chat_template" "" Value.string?
    allowRemoteFiles := ← source.defaulted "allow_remote_files" false Value.bool?
    modelFileSize := ← source.required "model_file_size" Value.string?
    diskRequirement := ← source.required "disk_storage_requirement" Value.string?
    bytesPerToken := ← source.required "bytes_per_token" Value.unsigned?
    tokenLimit := ← source.required "model_token_limit" Value.unsigned?
    reasoningParser := ← source.defaulted "reasoning_parser" "" Value.string?
    toolCallParser := ← source.defaulted "tool_call_parser" "" Value.string? }

/-- The object that states a card. -/
def toJson (card : ModelCard) : Value :=
  .object [("name", .string card.name),
    ("architectures", .ofStrings card.architectures),
    ("model_type", .string card.modelType),
    ("version", .string card.version),
    ("runtime", .string card.runtime),
    ("download_at_runtime", .bool card.downloadAtRuntime),
    ("download_auth_required", .bool card.downloadAuthRequired),
    ("dtype", .string card.dtype),
    ("chat_template", .string card.chatTemplate),
    ("allow_remote_files", .bool card.allowRemoteFiles),
    ("model_file_size", .string card.modelFileSize),
    ("disk_storage_requirement", .string card.diskRequirement),
    ("bytes_per_token", .ofUnsigned card.bytesPerToken),
    ("model_token_limit", .ofUnsigned card.tokenLimit),
    ("reasoning_parser", .string card.reasoningParser),
    ("tool_call_parser", .string card.toolCallParser)]

end ModelCard

namespace LaunchSpec

/-- The names of the fields of launch parameters, in declaration order. -/
def fieldNames : List String :=
  ["base_command", "model_name", "model_run_params", "disallow_lora", "ray_leader_base_command",
    "ray_worker_base_command"]

/-- The launch parameters that a value states. -/
def ofJson? (value : Value) : Option LaunchSpec := do
  let source ← value.fields? fieldNames
  return {
    baseCommand := ← source.defaulted "base_command" "" Value.string?
    modelName := ← source.required "model_name" Value.string?
    flags := ← source.required "model_run_params" Value.stringMap?
    disallowLora := ← source.required "disallow_lora" Value.bool?
    leaderCommand := ← source.defaulted "ray_leader_base_command" "" Value.string?
    workerCommand := ← source.defaulted "ray_worker_base_command" "" Value.string? }

/-- The object that states launch parameters. -/
def toJson (launch : LaunchSpec) : Value :=
  .object [("base_command", .string launch.baseCommand),
    ("model_name", .string launch.modelName),
    ("model_run_params", .ofStringMap launch.flags),
    ("disallow_lora", .bool launch.disallowLora),
    ("ray_leader_base_command", .string launch.leaderCommand),
    ("ray_worker_base_command", .string launch.workerCommand)]

end LaunchSpec

namespace Preset

/-- The object that states a preset. -/
def toJson (preset : Preset) : Value :=
  .object [("metadata", preset.card.toJson),
    ("attn_type", .string preset.attention.label),
    ("vllm", preset.launch.toJson),
    ("readiness_timeout",
      .object [("secs", .ofUnsigned preset.readinessSeconds), ("nanos", .number (.integer 0))])]

end Preset

end ServingPreset
