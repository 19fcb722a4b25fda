import ServingPreset.Json.Value
import ServingPreset.Preset.Basic
import ServingPreset.Quantity
import ServingPreset.Yaml.Block

/-!
# Summaries of presets

The facts of a preset that are shown to people, in a fixed order: once as a YAML
document and once as a JSON object. The size of the weights is shown as a number.
-/

namespace ServingPreset

/-- What is shown of a preset. -/
structure Summary where
  attention : AttentionKind
  name : String
  architectures : List String
  modelType : String
  version : String
  downloadAtRuntime : Bool
  downloadAuthRequired : Bool
  diskRequirement : String
  modelFileGibibytes : UInt64
  bytesPerToken : UInt64
  /-- The number of tokens that the model attends to. -/
  tokenLimit : UInt64
  reasoningParser : String
  toolCallParser : String
  servedName : String
  loadFormat : String
  configFormat : String
  tokenizerMode : String
  disallowLora : Bool
deriving DecidableEq, Inhabited

namespace Summary

/-- The summary of a preset. A flag that the preset does not set is shown empty. -/
def ofPreset (preset : Preset) : Summary :=
  let flag (name : String) : String := (preset.launch.flags.get? name).getD ""
  { attention := preset.attention
    name := preset.card.name
    architectures := preset.card.architectures
    modelType := preset.card.modelType
    version := preset.card.version
    downloadAtRuntime := preset.card.downloadAtRuntime
    downloadAuthRequired := preset.card.downloadAuthRequired
    diskRequirement := preset.card.diskRequirement
    modelFileGibibytes := Quantity.wholeGibibytes preset.card.modelFileSize
    bytesPerToken := preset.card.bytesPerToken
    tokenLimit := preset.card.tokenLimit
    reasoningParser := preset.card.reasoningParser
    toolCallParser := preset.card.toolCallParser
    servedName := preset.launch.modelName
    loadFormat := flag "load_format"
    configFormat := flag "config_format"
    tokenizerMode := flag "tokenizer_mode"
    disallowLora := preset.launch.disallowLora }

/-- The entries of a summary in the order in which they are shown. -/
def entries (summary : Summary) : List (String × Yaml.Node) :=
  [("attn_type", .text summary.attention.label),
    ("name", .text summary.name),
    ("architectures", .texts summary.architectures),
    ("type", .text summary.modelType),
    ("version", .text summary.version),
    ("download_at_runtime", .truth summary.downloadAtRuntime),
    ("download_auth_required", .truth summary.downloadAuthRequired),
    ("disk_storage_requirement", .text summary.diskRequirement),
    ("model_file_size_gb", .number summary.modelFileGibibytes.toNat),
    ("bytes_per_token", .number summary.bytesPerToken.toNat),
    ("model_token_limit", .number summary.tokenLimit.toNat),
    ("reasoning_parser", .text summary.reasoningParser),
    ("tool_call_parser", .text summary.toolCallParser),
    ("vllm", .mapping
      [("model_name", .text summary.servedName),
        ("model_run_params", .mapping
          [("load_format", .text summary.loadFormat),
            ("config_format", .text summary.configFormat),
            ("tokenizer_mode", .text summary.tokenizerMode)]),
        ("disallow_lora", .truth summary.disallowLora)])]

/-- The YAML document of a summary. -/
def toYaml (summary : Summary) : String :=
  Yaml.document summary.entries

end Summary

namespace Yaml

mutual

/-- The JSON value with the contents of a node. -/
def Node.toJson : Node → Json.Value
  | .text value => .string value
  | .truth value => .bool value
  | .number value => .number (.integer value)
  | .texts items => .ofStrings items
  | .mapping entries => .object (entriesToJson entries)

/-- The members with the contents of the entries of a mapping. -/
def entriesToJson : List (String × Node) → List (String × Json.Value)
  | [] => []
  | (key, node) :: rest => (key, node.toJson) :: entriesToJson rest

end

end Yaml

namespace Summary

/-- The JSON object of a summary. -/
def toJson (summary : Summary) : Json.Value :=
  (Yaml.Node.mapping summary.entries).toJson

end Summary

end ServingPreset
