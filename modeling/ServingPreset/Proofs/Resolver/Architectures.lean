import ServingPreset.Proofs.Generation.Faults
import ServingPreset.Proofs.Generation.Serving
import ServingPreset.Proofs.Resolver.Footprint

/-!
# The architectures that are let in

A generated model is registered if it names no architecture, or a supported one. The names
come from the configuration, and where that states none, from the family of the model. All
families have supported architectures (`KnownModels.supported_of_family`), so what the
configuration states decides alone: a model is refused exactly if there is a text among the
stated entries and no text among them is supported.
-/

namespace ServingPreset

namespace ConfigDocument

variable {config : ConfigDocument} {elements : List Json.Value} {text : String}

theorem declaredArchitectures_of_array
    (stated : config.get? "architectures" = some (.array elements)) :
    config.declaredArchitectures = elements.filterMap Json.Value.string? := by
  simp [declaredArchitectures, stated, Json.Value.array?]

theorem declaredArchitectures_of_unlisted
    (unlisted : ∀ elements, config.get? "architectures" ≠ some (.array elements)) :
    config.declaredArchitectures = [] := by
  have none : (config.get? "architectures").bind Json.Value.array? = none := by
    rw [Option.bind_eq_none_iff]
    intro value stated
    cases value with
    | array elements => exact absurd stated (unlisted elements)
    | _ => rfl
  simp [declaredArchitectures, none]

theorem mem_declaredArchitectures_iff
    (stated : config.get? "architectures" = some (.array elements)) :
    text ∈ config.declaredArchitectures ↔ .string text ∈ elements := by
  have isText (value : Json.Value) : value.string? = some text ↔ value = .string text := by
    cases value <;> simp [Json.Value.string?]
  simp [declaredArchitectures_of_array stated, isText]

theorem architectures_of_declared (modelName : String)
    (declared : config.declaredArchitectures ≠ []) :
    config.architectures modelName = config.declaredArchitectures := by
  simp [architectures, declared]

end ConfigDocument

namespace KnownModels

variable {config : ConfigDocument}

theorem supported_of_family :
    ∀ row ∈ ConfigDocument.familyArchitectures, row.2 ∈ supportedArchitectures := by
  simp [ConfigDocument.familyArchitectures, supportedArchitectures]

theorem isServable_of_undeclared (modelName : String)
    (undeclared : config.declaredArchitectures = []) :
    isServable (config.architectures modelName) = true := by
  simp only [ConfigDocument.architectures, undeclared, List.isEmpty_nil, Bool.not_true,
    Bool.false_eq_true, if_false]
  split
  · next row found =>
      apply isServable_iff.mpr
      right
      refine ⟨row.2, List.mem_singleton_self _, ?_⟩
      exact supported_of_family row (List.mem_of_find?_eq_some found)
  · rfl

theorem isServable_architectures_eq_false_iff (modelName : String) :
    isServable (config.architectures modelName) = false ↔
      ∃ elements, config.get? "architectures" = some (.array elements) ∧
        (∃ text, .string text ∈ elements) ∧
        ∀ text, .string text ∈ elements → text ∉ supportedArchitectures := by
  constructor
  · intro refused
    -- The family of the model cannot be what is refused, so something is stated.
    have declared : config.declaredArchitectures ≠ [] := by
      intro undeclared
      rw [isServable_of_undeclared modelName undeclared] at refused
      contradiction
    rw [config.architectures_of_declared modelName declared, ← Bool.not_eq_true, isServable_iff,
      not_or, not_exists] at refused
    by_cases listed : ∃ elements, config.get? "architectures" = some (.array elements)
    · rcases listed with ⟨elements, stated⟩
      refine ⟨elements, stated, ?_, ?_⟩
      · rcases List.exists_mem_of_ne_nil _ declared with ⟨text, member⟩
        exact ⟨text, (ConfigDocument.mem_declaredArchitectures_iff stated).mp member⟩
      · intro text member supported
        apply refused.2 text
        exact ⟨(ConfigDocument.mem_declaredArchitectures_iff stated).mpr member, supported⟩
    · rw [not_exists] at listed
      exact absurd (ConfigDocument.declaredArchitectures_of_unlisted listed) declared
  · rintro ⟨elements, stated, ⟨text, member⟩, unsupported⟩
    have isDeclared := (ConfigDocument.mem_declaredArchitectures_iff stated).mpr member
    have declared := List.ne_nil_of_mem isDeclared
    rw [config.architectures_of_declared modelName declared, ← Bool.not_eq_true, isServable_iff]
    rintro (undeclared | ⟨other, otherDeclared, supported⟩)
    · exact declared undeclared
    · apply unsupported other _ supported
      exact (ConfigDocument.mem_declaredArchitectures_iff stated).mp otherDeclared

end KnownModels

namespace Generation

variable {hub : Hub} {repository : Repository} {weights : Weights} {config : ConfigDocument}
  {preset : Preset}

theorem architectures_of_run (selected : fetchWeights hub repository = .ok weights)
    (configured : fetchConfig hub repository weights = .ok config)
    (generated : (run hub repository).result = .ok preset) :
    preset.card.architectures = config.architectures repository.shortName := by
  rcases exists_assembled_of_run generated with ⟨other, read, chosen, given, assembled⟩
  rw [selected] at chosen
  cases chosen
  rw [configured] at given
  cases given
  rcases assembled.exists_card_eq with ⟨_, _, _, card⟩
  rw [card]
  rfl

end Generation

/-! ### A hub with strange architectures -/

namespace SmallHub

def strangeConfig : Json.Bytes :=
  document "\x7b\"architectures\":[\"NewLM\",7,\"OwnLM\"]\x7d"

def strangeMembers : List (String × Json.Value) :=
  [("architectures", .array [.string "NewLM", .number (.integer 7), .string "OwnLM"])]

theorem document_strangeConfig :
    Json.document Json.readObject strangeConfig = .ok strangeMembers := by
  with_unfolding_all rfl

def strangeHub : Hub where
  endpoint := "https://hub"
  tokenAttached := false
  respond url :=
    .ok ⟨200, if url = "https://hub/org/m/resolve/main/config.json" then strangeConfig
      else singleListing⟩

end SmallHub

namespace Resolver

variable {index : ModelIndex} {vault : SecretVault} {source : PresetSource}
  {modelName secret zone : String}

theorem resolve_of_refused {preset : Preset}
    (needed : NeedsGeneration index (Text.lowercase modelName))
    (generated : (source (Text.lowercase modelName) (tokenOrNone vault secret zone)).result =
      .ok preset)
    (unservable : KnownModels.isServable preset.card.architectures = false) :
    resolve index vault source modelName secret zone =
      ⟨.error (.problem (.unsupportedArchitecture (Text.lowercase modelName)
          (", ".intercalate preset.card.architectures))),
        [tokenOrNone vault secret zone],
        (source (Text.lowercase modelName) (tokenOrNone vault secret zone)).requests, index⟩ := by
  rw [resolve_of_needed needed, generate_of_refused generated unservable]

/--
A model whose preset was generated from a configuration is refused exactly if the configuration
states architectures and none of those that are texts is supported. The problem then names all
texts that are stated, and nothing is registered. Any other model is registered, so one without
a stated architecture always is, whatever its name.
-/
theorem resolve_by_architectures (index : ModelIndex) (vault : SecretVault)
    (source : PresetSource) (modelName secret zone : String) (hub : Hub)
    (repository : Repository) (weights : Weights) (config : ConfigDocument) (preset : Preset)
    (needed : NeedsGeneration index (Text.lowercase modelName))
    (asked : (source (Text.lowercase modelName) (tokenOrNone vault secret zone)).result =
      (Generation.run hub repository).result)
    (selected : Generation.fetchWeights hub repository = .ok weights)
    (configured : Generation.fetchConfig hub repository weights = .ok config)
    (generated : (Generation.run hub repository).result = .ok preset) :
    let name := Text.lowercase modelName
    let resolution := resolve index vault source modelName secret zone
    let enrolled := resolution.result = .ok (ServedModel.ofPreset preset) ∧
      resolution.index = ⟨index.models.insert name (ServedModel.ofPreset preset)⟩
    let stated := config.get? "architectures"
    let refused := ∃ elements, stated = some (.array elements) ∧
      (∃ text, .string text ∈ elements) ∧
      ∀ text, .string text ∈ elements → text ∉ KnownModels.supportedArchitectures
    ((∃ shown listed,
        resolution.result = .error (.problem (.unsupportedArchitecture shown listed))) ↔
      refused) ∧
    (refused → resolution.index = index ∧
      ∀ elements, stated = some (.array elements) →
        resolution.result = .error (.problem (.unsupportedArchitecture name
          (", ".intercalate (elements.filterMap Json.Value.string?))))) ∧
    (¬refused → enrolled) ∧
    ((∀ elements, stated = some (.array elements) → ∀ text, .string text ∉ elements) →
      enrolled) := by
  intro name resolution enrolled stated refused
  have given : (source name (tokenOrNone vault secret zone)).result = .ok preset :=
    asked.trans generated
  have architectures := Generation.architectures_of_run selected configured generated
  have refused_iff : KnownModels.isServable preset.card.architectures = false ↔ refused := by
    rw [architectures]
    exact KnownModels.isServable_architectures_eq_false_iff repository.shortName
  have registered (tolerated : ¬refused) : enrolled := by
    rw [← refused_iff, Bool.not_eq_false] at tolerated
    have outcome : resolution = _ := resolve_of_enrolls ⟨needed, given, tolerated⟩
    exact ⟨congrArg Resolution.result outcome, congrArg Resolution.index outcome⟩
  have turnedAway (isRefused : refused) : resolution = _ :=
    resolve_of_refused needed given (refused_iff.mpr isRefused)
  refine ⟨⟨?_, ?_⟩, ?_, registered, ?_⟩
  · rintro ⟨shown, listed, failed⟩
    by_contra tolerated
    rw [(registered tolerated).1] at failed
    contradiction
  · intro isRefused
    exact ⟨_, _, congrArg Resolution.result (turnedAway isRefused)⟩
  · intro isRefused
    refine ⟨congrArg Resolution.index (turnedAway isRefused), ?_⟩
    intro elements listed
    rw [turnedAway isRefused]
    rcases isRefused with ⟨others, same, ⟨text, member⟩, _⟩
    cases listed.symm.trans same
    have isDeclared := (ConfigDocument.mem_declaredArchitectures_iff listed).mpr member
    rw [architectures, config.architectures_of_declared _ (List.ne_nil_of_mem isDeclared),
      ConfigDocument.declaredArchitectures_of_array listed]
  · intro textless
    apply registered
    rintro ⟨elements, listed, ⟨text, member⟩, _⟩
    exact textless elements listed text member

open SmallHub in
/-- Two strange texts and a number are stated, and the texts are named. -/
theorem resolve_by_architectures_strange :
    let source : PresetSource := fun name _ => Generation.ofText strangeHub name
    let resolution := resolve ModelIndex.empty (.ofSecrets []) source "Org/M" "hf" ""
    NeedsGeneration ModelIndex.empty (Text.lowercase "Org/M") ∧
      (Generation.run strangeHub ⟨"org/m"⟩).result.isOk = true ∧
      resolution.result =
        .error (.problem (.unsupportedArchitecture "org/m" "NewLM, OwnLM")) ∧
      resolution.index = ModelIndex.empty := by
  intro source resolution
  have needed : NeedsGeneration ModelIndex.empty (Text.lowercase "Org/M") :=
    ⟨by decide +kernel, by decide +kernel, by decide +kernel⟩
  have asked : (source (Text.lowercase "Org/M") (tokenOrNone (.ofSecrets []) "hf" "")).result =
      (Generation.run strangeHub ⟨"org/m"⟩).result := by
    have named : Repository.ofText (Text.lowercase "Org/M") = .ok ⟨"org/m"⟩ := by decide +kernel
    simp only [source, Generation.ofText, named]
  have selected : Generation.fetchWeights strangeHub ⟨"org/m"⟩ = .ok singleWeights :=
    fetchWeights_of_singleListing (by decide +kernel)
  have configured :
      Generation.fetchConfig strangeHub ⟨"org/m"⟩ singleWeights = .ok ⟨strangeMembers⟩ :=
    Generation.fetchConfig_eq_ok_iff.mpr
      ⟨strangeConfig, by decide +kernel, document_strangeConfig⟩
  have generates : (Generation.run strangeHub ⟨"org/m"⟩).result.isOk = true := by decide +kernel
  rcases Generation.exists_of_isOk generates with ⟨preset, generated⟩
  rcases resolve_by_architectures ModelIndex.empty (.ofSecrets []) source "Org/M" "hf" "" strangeHub
    ⟨"org/m"⟩ _ _ preset needed asked selected configured generated with ⟨_, refusal, _⟩
  have stated : (ConfigDocument.mk strangeMembers).get? "architectures" = some
      (.array [.string "NewLM", .number (.integer 7), .string "OwnLM"]) := rfl
  have unsupported : "NewLM" ∉ KnownModels.supportedArchitectures ∧
      "OwnLM" ∉ KnownModels.supportedArchitectures := by
    simp [KnownModels.supportedArchitectures]
  have refused := refusal ⟨_, stated, ⟨"NewLM", by simp⟩, by simp [unsupported]⟩
  exact ⟨needed, generates, refused.2 _ stated, refused.1⟩

end Resolver

end ServingPreset
