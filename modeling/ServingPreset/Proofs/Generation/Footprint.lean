import Mathlib.Data.List.Basic
import ServingPreset.Proofs.Generation.Route
import ServingPreset.Proofs.Weights

/-!
# What a generation reads

Of a listing, a generation reads the names and the sizes of weight files, in no particular
order (`Weights.ofListing_matches`); of a configuration document, the values under the keys
in `ConfigDocument.readKeys`; of a hub, its endpoint and its answers. Two generations are
compared step by step: `Matches` says that two outcomes went the same way, with related
problems or related results, and `run_alike` that generations whose steps match are alike.
-/

namespace ServingPreset

/-- Two outcomes that went the same way, with related problems or related results. -/
inductive Matches {Left Right : Type} (problems : Problem → Problem → Prop)
    (results : Left → Right → Prop) : Except Problem Left → Except Problem Right → Prop where
  | failed {first second : Problem} (related : problems first second) :
      Matches problems results (.error first) (.error second)
  | succeeded {first : Left} {second : Right} (related : results first second) :
      Matches problems results (.ok first) (.ok second)

namespace Matches

variable {Left Right : Type} {problems : Problem → Problem → Prop} {results : Left → Right → Prop}
  {left : Except Problem Left} {right : Except Problem Right}

theorem outcomes (matched : Matches problems results left right) :
    (∃ first second, left = .error first ∧ right = .error second ∧ problems first second) ∨
      ∃ first second, left = .ok first ∧ right = .ok second ∧ results first second := by
  cases matched with
  | failed related => exact .inl ⟨_, _, rfl, rfl, related⟩
  | succeeded related => exact .inr ⟨_, _, rfl, rfl, related⟩

theorem mono {results' : Left → Right → Prop} (matched : Matches problems results left right)
    (weaker : ∀ first second, results first second → results' first second) :
    Matches problems results' left right := by
  cases matched with
  | failed related => exact .failed related
  | succeeded related => exact .succeeded (weaker _ _ related)

theorem bind {Left' Right' : Type} {results' : Left' → Right' → Prop}
    {next : Left → Except Problem Left'} {next' : Right → Except Problem Right'}
    (matched : Matches problems results left right)
    (later : ∀ first second, results first second →
      Matches problems results' (next first) (next' second)) :
    Matches problems results' (left >>= next) (right >>= next') := by
  cases matched with
  | failed related => exact .failed related
  | succeeded related => exact later _ _ related

/-- An outcome matches itself if its problem is related to itself. -/
theorem refl_of {outcome : Except Problem Left} {results : Left → Left → Prop}
    (problem : ∀ problem, outcome = .error problem → problems problem problem)
    (result : ∀ result, results result result) : Matches problems results outcome outcome := by
  cases outcome with
  | error met => exact .failed (problem met rfl)
  | ok given => exact .succeeded (result given)

end Matches

/-! ### Weight files -/

namespace FileRow

/-- A choice of weight files by name takes files of the same sizes from the same weight files. -/
theorem perm_sizes_filter {left right : List FileRow}
    (same : (weightFacts left).Perm (weightFacts right)) (accepts : List Char → Bool)
    (weight : ∀ row : FileRow, accepts row.name = true → row.isWeight = true) :
    ((left.filter fun row => accepts row.name).map size).Perm
      ((right.filter fun row => accepts row.name).map size) := by
  have chosen := (same.filter fun fact => accepts fact.1).map Prod.snd
  rw [← map_facts_filter weight, ← map_facts_filter weight, List.map_map, List.map_map] at chosen
  exact chosen

end FileRow

namespace Weights

open FileRow (isConsolidated isSafetensors isBinary isWeight weightFacts)

theorem eq_nil_iff_of_perm_sizes {left right : List FileRow}
    (sizes : (left.map FileRow.size).Perm (right.map FileRow.size)) : left = [] ↔ right = [] := by
  rw [← List.map_eq_nil_iff, ← List.map_eq_nil_iff (l := right)]
  exact ⟨fun none => (none ▸ sizes).nil_eq.symm, fun none => (none ▸ sizes).eq_nil⟩

/-- Listings with the same weight files select interchangeable files. -/
theorem ofListing_matches {left right : List FileRow}
    (same : (weightFacts left).Perm (weightFacts right)) :
    Matches Eq Interchangeable (ofListing left) (ofListing right) := by
  have consolidated : ((left.filter isConsolidated).map FileRow.size).Perm
      ((right.filter isConsolidated).map FileRow.size) :=
    FileRow.perm_sizes_filter same
      (fun name => "consolidated".toList.isPrefixOf name && ".safetensors".toList.isSuffixOf name)
      fun _ chosen =>
        FileRow.isWeight_iff.mpr (.inl (FileRow.isSafetensors_of_isConsolidated chosen))
  have safetensors : ((left.filter isSafetensors).map FileRow.size).Perm
      ((right.filter isSafetensors).map FileRow.size) :=
    FileRow.perm_sizes_filter same ".safetensors".toList.isSuffixOf
      fun _ chosen => FileRow.isWeight_iff.mpr (.inl chosen)
  have binaries : ((left.filter isBinary).map FileRow.size).Perm
      ((right.filter isBinary).map FileRow.size) :=
    FileRow.perm_sizes_filter same ".bin".toList.isSuffixOf
      fun _ chosen => FileRow.isWeight_iff.mpr (.inr chosen)
  rw [ofListing_eq, ofListing_eq]
  simp only [ne_eq, eq_nil_iff_of_perm_sizes consolidated, eq_nil_iff_of_perm_sizes safetensors,
    eq_nil_iff_of_perm_sizes binaries]
  split
  · exact .succeeded ⟨rfl, consolidated⟩
  · split
    · exact .succeeded ⟨rfl, safetensors⟩
    · split
      · exact .succeeded ⟨rfl, binaries⟩
      · exact .failed rfl

end Weights

/-! ### The configuration -/

namespace AttentionShape

def keys : List String :=
  hiddenSizeKeys ++ layerKeys ++ headKeys ++ kvHeadKeys ++
    ["head_dim", "multi_query", "kv_lora_rank", "qk_rope_head_dim"]

end AttentionShape

namespace ConfigDocument

/-- The keys whose values a generation reads. -/
def readKeys : List String :=
  ["architectures"] ++ tokenLimitKeys ++ AttentionShape.keys

/-- Two documents that state the same, or nothing, under some keys. -/
def AgreeOn (keys : List String) (left right : ConfigDocument) : Prop :=
  ∀ key ∈ keys, left.get? key = right.get? key

variable {keys : List String} {left right : ConfigDocument}

theorem AgreeOn.mono {fewer : List String} (agree : AgreeOn keys left right)
    (subset : fewer ⊆ keys) : AgreeOn fewer left right :=
  fun key member => agree key (subset member)

theorem AgreeOn.refl (config : ConfigDocument) : AgreeOn keys config config :=
  fun _ _ => rfl

theorem AgreeOn.first? {Result : Type} (agree : AgreeOn keys left right)
    (use : Json.Value → Option Result) : left.first? use keys = right.first? use keys := by
  rw [ConfigDocument.first?, ConfigDocument.first?, List.filterMap_congr agree]

/-- The shape of the attention is read through its keys. -/
theorem AgreeOn.ofConfig (agree : AgreeOn AttentionShape.keys left right) :
    AttentionShape.ofConfig left = AttentionShape.ofConfig right := by
  have first {Result : Type} (use : Json.Value → Option Result) (listed : List String)
      (subset : listed ⊆ AttentionShape.keys) :
      left.first? use listed = right.first? use listed := (agree.mono subset).first? use
  simp only [AttentionShape.ofConfig, int, int?, bool?]
  rw [first _ AttentionShape.hiddenSizeKeys (by decide),
    first _ AttentionShape.layerKeys (by decide), first _ AttentionShape.headKeys (by decide),
    first _ AttentionShape.kvHeadKeys (by decide),
    first _ ["head_dim"] (by decide), first _ ["multi_query"] (by decide),
    first _ ["kv_lora_rank"] (by decide), first _ ["qk_rope_head_dim"] (by decide)]

theorem AgreeOn.tokenLimit (agree : AgreeOn tokenLimitKeys left right) :
    left.tokenLimit = right.tokenLimit := by
  rw [ConfigDocument.tokenLimit, ConfigDocument.tokenLimit, int, int, int?, int?, agree.first?]

theorem AgreeOn.architectures (agree : AgreeOn ["architectures"] left right) (modelName : String) :
    left.architectures modelName = right.architectures modelName := by
  have declared : left.declaredArchitectures = right.declaredArchitectures := by
    rw [declaredArchitectures, declaredArchitectures, agree "architectures" List.mem_cons_self]
  rw [ConfigDocument.architectures, ConfigDocument.architectures, declared]

end ConfigDocument

/-! ### The whole generation -/

namespace Generation

variable {problems : Problem → Problem → Prop} {left right : Hub} {repository : Repository}

theorem describe_congr {config other : ConfigDocument}
    (sameEndpoint : left.endpoint = right.endpoint)
    (agree : ConfigDocument.AgreeOn ConfigDocument.readKeys config other) :
    describe left repository config = describe right repository other := by
  have architectures := (agree.mono (by decide : ["architectures"] ⊆ _)).architectures
  have tokenLimit := (agree.mono (by decide : ConfigDocument.tokenLimitKeys ⊆ _)).tokenLimit
  simp only [describe, versionOf, sameEndpoint, architectures, tokenLimit]

theorem assemble_congr {first second : Weights} {config other : ConfigDocument}
    (sameEndpoint : left.endpoint = right.endpoint) (weights : first.Interchangeable second)
    (agree : ConfigDocument.AgreeOn ConfigDocument.readKeys config other) :
    assemble left repository first config = assemble right repository second other := by
  have shape := (agree.mono (by decide : AttentionShape.keys ⊆ _)).ofConfig
  simp only [assemble, describe_congr sameEndpoint agree, shape, weights.totalBytes,
    weights.layout]

/-- Generations with the same requests that end alike, up to how problems are related. -/
inductive Alike (problems : Problem → Problem → Prop) : Generation → Generation → Prop where
  | generated (preset : Preset) (requests : List String) :
      Alike problems ⟨.ok preset, requests⟩ ⟨.ok preset, requests⟩
  | faulted (fault : Fault) (requests : List String) :
      Alike problems ⟨.error (.fault fault), requests⟩ ⟨.error (.fault fault), requests⟩
  | failed {first second : Problem} (requests : List String) (related : problems first second) :
      Alike problems ⟨.error (.problem first), requests⟩ ⟨.error (.problem second), requests⟩

/-- Generations are alike when their listings and then their configurations match. -/
theorem run_alike (sameEndpoint : left.endpoint = right.endpoint)
    (weights : Matches problems Weights.Interchangeable
      (fetchWeights left repository) (fetchWeights right repository))
    (config : ∀ first second, fetchWeights left repository = .ok first →
      fetchWeights right repository = .ok second →
      Matches problems (ConfigDocument.AgreeOn ConfigDocument.readKeys)
        (fetchConfig left repository first) (fetchConfig right repository second)) :
    Alike problems (run left repository) (run right repository) := by
  have treeUrl : right.treeUrl repository.id = left.treeUrl repository.id := by
    rw [Hub.treeUrl, Hub.treeUrl, sameEndpoint]
  rcases weights.outcomes with
    ⟨problem, problem', unweighted, unweighted', related⟩ |
      ⟨first, second, selected, selected', interchangeable⟩
  · rw [run_of_unweighted unweighted, run_of_unweighted unweighted', treeUrl]
    exact .failed _ related
  · have configUrl : configUrl right repository second = configUrl left repository first := by
      rw [Generation.configUrl, Generation.configUrl, Hub.fileUrl, Hub.fileUrl, sameEndpoint,
        interchangeable.layout]
    rcases (config first second selected selected').outcomes with
      ⟨problem, problem', unconfigured, unconfigured', related⟩ |
        ⟨config, config', configured, configured', agree⟩
    · rw [run_of_unconfigured selected unconfigured, run_of_unconfigured selected' unconfigured',
        treeUrl, configUrl]
      exact .failed _ related
    · rw [run_of_configured selected configured, run_of_configured selected' configured',
        treeUrl, configUrl, assemble_congr sameEndpoint interchangeable agree]
      cases assemble right repository second config' with
      | error fault => exact .faulted fault _
      | ok preset => exact .generated preset _

end Generation

end ServingPreset
