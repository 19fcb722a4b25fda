import ServingPreset.Proofs.Generation.Footprint

/-!
# Generations from interchangeable documents

Two hubs that give out documents with the same weight files and the same values under the
keys that are read make for one generation. Neither the order of the rows, nor their
directories and kinds, nor other rows and other keys matter to what is generated, to the
want of weight files, or to the fault that a size leaves its range. Of a hub itself, nothing
matters but what it answers to the requests of the generation (`run_eq_of_same_answers`).
-/

namespace ServingPreset

/-- A hub that gives out a listing and, if it has weight files, the configuration for them. -/
structure Hub.Serves (hub : Hub) (repository : Repository) (listing : List FileRow)
    (config : ConfigDocument) : Prop where
  listed : ∃ body, hub.respond (hub.treeUrl repository.id) = .ok ⟨200, body⟩ ∧
    FileRow.listing body = .ok listing
  configured : ∀ weights, Weights.ofListing listing = .ok weights →
    ∃ body, hub.respond (hub.fileUrl repository.id weights.layout.configFile) = .ok ⟨200, body⟩ ∧
      Json.document Json.readObject body = .ok config.members

namespace Hub.Serves

variable {hub : Hub} {repository : Repository} {listing : List FileRow} {config : ConfigDocument}

theorem of_chosen {weights : Weights}
    (listed : ∃ body, hub.respond (hub.treeUrl repository.id) = .ok ⟨200, body⟩ ∧
      FileRow.listing body = .ok listing)
    (chosen : Weights.ofListing listing = .ok weights)
    (configured : ∃ body,
      hub.respond (hub.fileUrl repository.id weights.layout.configFile) = .ok ⟨200, body⟩ ∧
        Json.document Json.readObject body = .ok config.members) :
    hub.Serves repository listing config := by
  refine ⟨listed, fun other selected => ?_⟩
  rw [chosen] at selected
  cases selected
  exact configured

theorem fetchWeights (serves : hub.Serves repository listing config) :
    Generation.fetchWeights hub repository = Weights.ofListing listing := by
  rcases serves.listed with ⟨body, delivered, read⟩
  rw [Generation.fetchWeights_of_fetch (fetch_eq_ok_iff.mpr delivered), Generation.readWeights,
    read]

theorem fetchConfig (serves : hub.Serves repository listing config) {weights : Weights}
    (selected : Weights.ofListing listing = .ok weights) :
    Generation.fetchConfig hub repository weights = .ok config :=
  Generation.fetchConfig_eq_ok_iff.mpr (serves.configured weights selected)

end Hub.Serves

/-! ### Another small hub -/

namespace SmallHub

/-- The weight files of `mixedListing` elsewhere and in another order, among other files. -/
def untidyListing : Json.Bytes :=
  document ("[\x7b\"path\":\"old/model.bin\",\"size\":7,\"type\":\"file\"\x7d," ++
    "[\"README.md\",99],[\"a/consolidated.safetensors\",1073741825]]")

def untidyRows : List FileRow :=
  [⟨"old/model.bin", 7, "file"⟩, ⟨"README.md", 99, ""⟩,
    ⟨"a/consolidated.safetensors", 1073741825, ""⟩]

/-- The values of `latentConfig` among others. -/
def untidyConfig : Json.Bytes :=
  document "\x7b\"n_layers\":61,\"kv_lora_rank\":512,\"bias\":[]\x7d"

def untidyMembers : List (String × Json.Value) :=
  [("n_layers", .number (.integer 61)), ("kv_lora_rank", .number (.integer 512)),
    ("bias", .array [])]

theorem document_untidyConfig :
    Json.document Json.readObject untidyConfig = .ok untidyMembers := by
  with_unfolding_all rfl

def untidyHub : Hub where
  endpoint := "https://huggingface.co"
  tokenAttached := false
  respond url :=
    if url = "https://huggingface.co/org/Qwen3-Open/resolve/main/params.json" then
      .ok ⟨200, untidyConfig⟩
    else .ok ⟨200, untidyListing⟩

end SmallHub

/-! ### Whole generations -/

namespace Generation

theorem Alike.eq {left right : Generation} (alike : Alike Eq left right) : left = right := by
  cases alike with
  | generated preset requests => rfl
  | faulted fault requests => rfl
  | failed requests same => rw [same]

/-- Documents that were had leave only the want of weight files, or a fault. -/
theorem result_of_serves {hub : Hub} {repository : Repository} {listing : List FileRow}
    {config : ConfigDocument} (serves : hub.Serves repository listing config) :
    (∃ preset, (run hub repository).result = .ok preset) ∨
      (run hub repository).result = .error (.problem .noWeightFiles) ∨
      ∃ fault, (run hub repository).result = .error (.fault fault) := by
  have selected := serves.fetchWeights
  cases chosen : Weights.ofListing listing with
  | error problem =>
      rw [Weights.eq_noWeightFiles_of_ofListing chosen] at chosen
      rw [run_of_unweighted (selected.trans chosen)]
      exact .inr (.inl rfl)
  | ok weights =>
      rw [run_of_configured (selected.trans chosen) (serves.fetchConfig chosen)]
      cases assemble hub repository weights config with
      | error fault => exact .inr (.inr ⟨fault, rfl⟩)
      | ok preset => exact .inl ⟨preset, rfl⟩

/--
Hubs under one endpoint that serve the same weight files, and configurations that agree on
the keys that are read, make for one generation: the same preset, the same want of weight
files, or the same fault.
-/
theorem run_eq_of_agreeing_documents (left right : Hub) (repository : Repository)
    (sameEndpoint : left.endpoint = right.endpoint)
    (leftListing rightListing : List FileRow) (leftConfig rightConfig : ConfigDocument)
    (leftServes : left.Serves repository leftListing leftConfig)
    (rightServes : right.Serves repository rightListing rightConfig)
    (sameWeights :
      (FileRow.weightFacts leftListing).Perm (FileRow.weightFacts rightListing))
    (agree : ConfigDocument.AgreeOn ConfigDocument.readKeys leftConfig rightConfig) :
    run left repository = run right repository ∧
      ((∃ preset, (run left repository).result = .ok preset) ∨
        (run left repository).result = .error (.problem .noWeightFiles) ∨
        ∃ fault, (run left repository).result = .error (.fault fault)) := by
  refine ⟨Alike.eq (run_alike sameEndpoint ?_ ?_), result_of_serves leftServes⟩
  · rw [leftServes.fetchWeights, rightServes.fetchWeights]
    exact Weights.ofListing_matches sameWeights
  · intro first second selected selected'
    have chosen := leftServes.fetchWeights.symm.trans selected
    have chosen' := rightServes.fetchWeights.symm.trans selected'
    rw [leftServes.fetchConfig chosen, rightServes.fetchConfig chosen']
    exact .succeeded agree

open SmallHub in
/-- The same weight files and the same shape, from two hubs that state them differently. -/
theorem run_eq_of_agreeing_documents_untidy :
    tokenHub.Serves ⟨"org/Qwen3-Open"⟩ mixedRows ⟨latentMembers⟩ ∧
      untidyHub.Serves ⟨"org/Qwen3-Open"⟩ untidyRows ⟨untidyMembers⟩ ∧
      run tokenHub ⟨"org/Qwen3-Open"⟩ = run untidyHub ⟨"org/Qwen3-Open"⟩ := by
  have chosen : Weights.ofListing mixedRows =
      .ok ⟨.consolidated, [⟨"consolidated.safetensors", 1073741825, ""⟩]⟩ := by
    decide +kernel
  have chosen' : Weights.ofListing untidyRows =
      .ok ⟨.consolidated, [⟨"a/consolidated.safetensors", 1073741825, ""⟩]⟩ := by
    decide +kernel
  have tidy : tokenHub.Serves ⟨"org/Qwen3-Open"⟩ mixedRows ⟨latentMembers⟩ :=
    .of_chosen ⟨mixedListing, by decide +kernel, listing_mixedListing⟩ chosen
      ⟨latentConfig, by decide +kernel, document_latentConfig⟩
  have untidy : untidyHub.Serves ⟨"org/Qwen3-Open"⟩ untidyRows ⟨untidyMembers⟩ :=
    .of_chosen ⟨untidyListing, by decide +kernel, by decide +kernel⟩ chosen'
      ⟨untidyConfig, by decide +kernel, document_untidyConfig⟩
  have sameWeights :
      (FileRow.weightFacts mixedRows).Perm (FileRow.weightFacts untidyRows) := by
    decide +kernel
  have agree : ConfigDocument.AgreeOn ConfigDocument.readKeys ⟨latentMembers⟩ ⟨untidyMembers⟩ := by
    simp [ConfigDocument.AgreeOn, ConfigDocument.readKeys, ConfigDocument.tokenLimitKeys,
      AttentionShape.keys, AttentionShape.hiddenSizeKeys, AttentionShape.layerKeys,
      AttentionShape.headKeys, AttentionShape.kvHeadKeys, ConfigDocument.get?, Json.Value.get?,
      latentMembers, untidyMembers]
  exact ⟨tidy, untidy, (run_eq_of_agreeing_documents tokenHub untidyHub ⟨"org/Qwen3-Open"⟩ rfl
    mixedRows untidyRows _ _ tidy untidy sameWeights agree).1⟩

end Generation

end ServingPreset
