import ServingPreset.ConfigDocument

/-!
# Attention and the key-value cache

The attention mechanism that a configuration reveals, and the room that its
key-value cache takes per token. A compression rank makes attention latent whatever
the head counts say; otherwise the numbers of query heads and of key-value heads
decide. Cache elements are two bytes wide.
-/

namespace ServingPreset

/-- How the heads of a model share keys and values. -/
inductive AttentionKind where
  /-- Every query head has keys and values of its own. -/
  | multiHead
  /-- All query heads share one head of keys and values. -/
  | multiQuery
  /-- Groups of query heads share a head of keys and values. -/
  | groupedQuery
  /-- Keys and values are compressed to a common rank. -/
  | latent
  /-- The configuration does not say. -/
  | unknown
deriving DecidableEq, Repr, Inhabited

namespace AttentionKind

/-- The short name of a kind. -/
def label : AttentionKind → String
  | multiHead => "MHA"
  | multiQuery => "MQA"
  | groupedQuery => "GQA"
  | latent => "MLA"
  | unknown => "Unknown"

/-- All kinds. -/
def all : List AttentionKind :=
  [multiHead, multiQuery, groupedQuery, latent, unknown]

/-- The kind of a short name. -/
def ofLabel? (label : String) : Option AttentionKind :=
  all.find? fun kind => kind.label == label

/-- Decode a kind: its short name, or an object that states null under that name. -/
def ofJson? : Json.Value → Option AttentionKind
  | .string label => ofLabel? label
  | .object [(label, .null)] => ofLabel? label
  | _ => none

end AttentionKind

/-- The facts of a configuration that attention depends on. -/
structure AttentionShape where
  hiddenSize : Int64 := 0
  layers : Int64 := 0
  heads : Int64 := 0
  /-- The number of key-value heads, zero when it is not stated. -/
  kvHeads : Int64 := 0
  /-- The width of a head, zero when it is not stated. -/
  headDim : Int64 := 0
  /-- Whether all heads share keys and values, where their number is not stated. -/
  multiQuery : Bool := false
  /-- The rank to which keys and values are compressed, for latent attention only. -/
  latentRank : Option Int64 := none
  /-- The width of the part that is rotated apart from the compression. -/
  ropeDim : Int64 := 0
deriving DecidableEq, Repr, Inhabited

/-- The room that the cache takes per token. -/
structure CacheFootprint where
  kind : AttentionKind
  elementsPerToken : Int64
  bytesPerToken : UInt64
deriving DecidableEq, Repr, Inhabited

namespace AttentionShape

/-- The keys of the hidden width. -/
def hiddenSizeKeys : List String := ["hidden_size", "n_embd", "d_model"]

/-- The keys of the number of layers. -/
def layerKeys : List String := ["num_hidden_layers", "n_layer", "n_layers"]

/-- The keys of the number of query heads. -/
def headKeys : List String := ["num_attention_heads", "n_head", "n_heads"]

/-- The keys of the number of key-value heads. -/
def kvHeadKeys : List String := ["num_key_value_heads", "n_head_kv", "n_kv_heads"]

/-- The facts that a configuration states. A rank of -1 says that there is none. -/
def ofConfig (config : ConfigDocument) : AttentionShape where
  hiddenSize := config.int hiddenSizeKeys 0
  layers := config.int layerKeys 0
  heads := config.int headKeys 0
  kvHeads := config.int kvHeadKeys 0
  headDim := config.int ["head_dim"] 0
  multiQuery := (config.bool? ["multi_query"]).getD false
  latentRank := (config.int? ["kv_lora_rank"]).filter (· != -1)
  ropeDim := config.int ["qk_rope_head_dim"] 0

/-- The width of a head: as stated, else the share of each head in the hidden width. -/
def effectiveHeadDim (shape : AttentionShape) : Int64 :=
  if shape.headDim = 0 ∧ 0 < shape.heads then shape.hiddenSize / shape.heads else shape.headDim

/-- The number of key-value heads: as stated, else one or one for each query head. -/
def effectiveKvHeads (shape : AttentionShape) : Int64 :=
  if shape.kvHeads = 0 ∧ 0 < shape.heads then
    if shape.multiQuery then 1 else shape.heads
  else shape.kvHeads

/-- The kind of attention that stated head counts amount to. -/
def headKind (heads kvHeads : Int64) : AttentionKind :=
  if heads = kvHeads then .multiHead
  else if kvHeads = 1 then .multiQuery
  else .groupedQuery

/--
The kind of attention and the cached elements per token and layer. Keys and values
are cached apart, except that a compressed cache holds the rank and the rotated part.
-/
def elements (shape : AttentionShape) : Except Fault (AttentionKind × Int64) :=
  match shape.latentRank with
  | some rank => do return (.latent, ← addSigned rank shape.ropeDim)
  | none =>
      let headDim := shape.effectiveHeadDim
      let kvHeads := shape.effectiveKvHeads
      if 0 < shape.heads ∧ 0 < kvHeads ∧ 0 < headDim then do
        let both ← mulSigned 2 kvHeads
        return (headKind shape.heads kvHeads, ← mulSigned both headDim)
      else return (.unknown, 0)

/-- The number of bytes of a cached element. -/
def bytesPerElement : Int64 := 2

/-- The room that the cache takes: all layers, two bytes per element, never below zero. -/
def footprint (shape : AttentionShape) : Except Fault CacheFootprint := do
  let (kind, elements) ← shape.elements
  let bytes := mulSaturating (mulSaturating elements shape.layers) bytesPerElement
  return ⟨kind, elements, unsignedOrZero bytes⟩

end AttentionShape

end ServingPreset
