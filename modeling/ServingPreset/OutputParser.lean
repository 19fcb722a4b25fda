import ServingPreset.Text.Lowercase

/-!
# Output parsers

The runtime has to be told how reasoning and tool calls appear in the output of a
model. The format follows the model family, which the start of the lowercase name
reveals. Prefixes are tried in increasing order and the last one that fits counts, so
a family is overruled by the more special one that extends its prefix.
-/

namespace ServingPreset

namespace OutputParser

/-- A family prefix and the parser of the family. -/
abbrev Row := String × String

/-- The parser of the last prefix, in increasing order, that the lowercase name starts with. -/
def select (table : List Row) (modelName : String) : Option String :=
  let ordered := table.mergeSort fun left right => left.1 ≤ right.1
  let name := (Text.lowercase modelName).toList
  (ordered.filter fun row => row.1.toList.isPrefixOf name).getLast?.map (·.2)

/-- The parsers of reasoning segments by family. -/
def reasoningTable : List Row :=
  [("deepseek-r1", "deepseek_r1"), ("deepseek-v3", "deepseek_v3"), ("ernie-4.5", "ernie45"),
    ("glm-4.5", "glm45"), ("granite-3.2", "granite"), ("hunyuan-a13b", "hunyuan_a13b"),
    ("minimax-m2", "minimax_m2_append_think"), ("qwen3", "qwen3"), ("qwq-32b", "deepseek_r1")]

/-- The parsers of tool calls by family. -/
def toolCallTable : List Row :=
  [("ai21-jamba", "jamba"), ("deepseek-r1", "deepseek_v3"), ("deepseek-v3", "deepseek_v3"),
    ("deepseek-v3.1", "deepseek_v31"), ("glm-4", "glm45"), ("granite-3", "granite"),
    ("granite-4", "hermes"), ("hermes-2", "hermes"), ("hermes-3", "hermes"),
    ("hunyuan-a13b", "hunyuan_a13b"), ("internlm", "internlm"), ("kimi_k2", "kimi_k2"),
    ("longcat", "longcat"), ("meta-llama-3", "llama3_json"), ("meta-llama-4", "llama4_pythonic"),
    ("minimax", "minimax"), ("mistral", "mistral"), ("olmo-3", "olmo3"), ("qwen2.5", "hermes"),
    ("qwen3", "hermes"), ("qwen3-coder", "qwen3_xml"), ("qwq-32b", "hermes")]

/-- The parser of reasoning segments for a model, if its family is known. -/
def reasoning (modelName : String) : Option String :=
  select reasoningTable modelName

/-- The parser of tool calls for a model, if its family is known. -/
def toolCall (modelName : String) : Option String :=
  select toolCallTable modelName

end OutputParser

end ServingPreset
