/-!
# Known models

The repositories whose presets are registered under a name of their own, and the
architectures that the runtime can serve.
-/

namespace ServingPreset

namespace KnownModels

/-- Repositories, in lower case, and the names of the presets that stand for them. -/
def aliases : List (String × String) :=
  [("deepseek-ai/deepseek-r1-0528", "deepseek-r1-0528"),
    ("deepseek-ai/deepseek-r1-distill-llama-8b", "deepseek-r1-distill-llama-8b"),
    ("deepseek-ai/deepseek-r1-distill-qwen-14b", "deepseek-r1-distill-qwen-14b"),
    ("deepseek-ai/deepseek-v3-0324", "deepseek-v3-0324"),
    ("google/gemma-3-27b-it", "gemma-3-27b-instruct"),
    ("google/gemma-3-4b-it", "gemma-3-4b-instruct"),
    ("meta-llama/llama-3.1-8b-instruct", "llama-3.1-8b-instruct"),
    ("meta-llama/llama-3.3-70b-instruct", "llama-3.3-70b-instruct"),
    ("microsoft/phi-3-medium-128k-instruct", "phi-3-medium-128k-instruct"),
    ("microsoft/phi-3-medium-4k-instruct", "phi-3-medium-4k-instruct"),
    ("microsoft/phi-3-mini-128k-instruct", "phi-3-mini-128k-instruct"),
    ("microsoft/phi-3-mini-4k-instruct", "phi-3-mini-4k-instruct"),
    ("microsoft/phi-3.5-mini-instruct", "phi-3.5-mini-instruct"), ("microsoft/phi-4", "phi-4"),
    ("microsoft/phi-4-mini-instruct", "phi-4-mini-instruct"),
    ("mistralai/ministral-3-14b-instruct-2512", "ministral-3-14b-instruct"),
    ("mistralai/ministral-3-3b-instruct-2512", "ministral-3-3b-instruct"),
    ("mistralai/ministral-3-8b-instruct-2512", "ministral-3-8b-instruct"),
    ("mistralai/mistral-7b-instruct-v0.3", "mistral-7b-instruct"),
    ("mistralai/mistral-7b-v0.3", "mistral-7b"),
    ("mistralai/mistral-large-3-675b-instruct-2512", "mistral-large-3-675b-instruct"),
    ("openai/gpt-oss-120b", "gpt-oss-120b"), ("openai/gpt-oss-20b", "gpt-oss-20b"),
    ("qwen/qwen2.5-coder-32b-instruct", "qwen2.5-coder-32b-instruct"),
    ("qwen/qwen2.5-coder-7b-instruct", "qwen2.5-coder-7b-instruct"),
    ("tiiuae/falcon-40b", "falcon-40b"), ("tiiuae/falcon-40b-instruct", "falcon-40b-instruct"),
    ("tiiuae/falcon-7b", "falcon-7b"), ("tiiuae/falcon-7b-instruct", "falcon-7b-instruct")]

/-- The architectures that the runtime can serve. -/
def supportedArchitectures : List String :=
  ["BaichuanForCausalLM", "BloomForCausalLM", "ChatGLMModel", "CohereForCausalLM",
    "DeciLMForCausalLM", "DeepseekForCausalLM", "DeepseekV2ForCausalLM", "DeepseekV3ForCausalLM",
    "Ernie4_5_ForCausalLM", "Ernie4_5_MoeForCausalLM", "FalconForCausalLM", "Gemma2ForCausalLM",
    "Gemma3ForCausalLM", "Gemma3ForConditionalGeneration", "GemmaForCausalLM", "Glm4ForCausalLM",
    "Glm4MoeForCausalLM", "GPT2LMHeadModel", "GPTBigCodeForCausalLM", "GPTJForCausalLM",
    "GPTNeoXForCausalLM", "GptOssForCausalLM", "GraniteForCausalLM", "GraniteMoeForCausalLM",
    "HunYuanMoEV1ForCausalLM", "InternLM2ForCausalLM", "InternLMForCausalLM", "JambaForCausalLM",
    "KimiK2ForCausalLM", "LlamaForCausalLM", "Llama4ForConditionalGeneration",
    "MiniMaxM2ForCausalLM", "Mistral3ForConditionalGeneration", "MistralForCausalLM",
    "MistralLarge3ForCausalLM", "MixtralForCausalLM", "MPTForCausalLM", "Olmo2ForCausalLM",
    "Olmo3ForCausalLM", "OlmoForCausalLM", "Phi3ForCausalLM", "PhiForCausalLM",
    "PhiMoEForCausalLM", "Qwen2ForCausalLM", "Qwen2MoeForCausalLM", "Qwen3ForCausalLM",
    "Qwen3MoeForCausalLM", "StableLmForCausalLM", "Starcoder2ForCausalLM"]

/-- The preset name that stands for a repository. -/
def alias? (repository : String) : Option String :=
  (aliases.find? fun row => row.1 == repository).map (·.2)

/-- Whether a model can be served: it names no architecture, or a supported one. -/
def isServable (architectures : List String) : Bool :=
  architectures.isEmpty || architectures.any supportedArchitectures.contains

end KnownModels

end ServingPreset
