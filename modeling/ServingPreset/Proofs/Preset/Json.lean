import ServingPreset.Preset.Json
import ServingPreset.Proofs.Json.ReadBack
import ServingPreset.Proofs.Settings

/-!
# Records that survive JSON

A card or the launch parameters are decoded from the object that states them
(`ModelCard.ofJson?_without`, `LaunchSpec.ofJson?_without`). Members may have been removed: each
removed field with a default has its default then, and without a field that has to be stated
there is no record. The text of such an object is read back, so that cards, launch parameters and
settings all survive being written (`records_survive`).
-/

namespace ServingPreset

open Json (Value FieldSource)

namespace ModelCard

/-- The names of the fields that have to be stated. -/
def requiredNames : List String :=
  ["name", "model_type", "version", "download_at_runtime", "download_auth_required",
    "model_file_size", "disk_storage_requirement", "bytes_per_token", "model_token_limit"]

/-- A card with the defaults in place of the fields of the given names. -/
def withDefaults (card : ModelCard) (removed : List String) : ModelCard :=
  { card with
    architectures := if "architectures" ∈ removed then [] else card.architectures
    runtime := if "runtime" ∈ removed then "" else card.runtime
    dtype := if "dtype" ∈ removed then "" else card.dtype
    chatTemplate := if "chat_template" ∈ removed then "" else card.chatTemplate
    allowRemoteFiles := if "allow_remote_files" ∈ removed then false else card.allowRemoteFiles
    reasoningParser := if "reasoning_parser" ∈ removed then "" else card.reasoningParser
    toolCallParser := if "tool_call_parser" ∈ removed then "" else card.toolCallParser }

/-- A card is decoded from what is left of its object, if all is left that has to be stated. -/
theorem ofJson?_without (card : ModelCard) (removed : List String) :
    ofJson? (card.toJson.without removed) =
      if ∀ name ∈ requiredNames, name ∉ removed then some (card.withDefaults removed)
      else none := by
  have required := FieldSource.required_left card.toJson removed
  have defaulted := FieldSource.defaulted_left card.toJson removed
  have source : (card.toJson.without removed).fields? fieldNames =
      some (FieldSource.left card.toJson removed) := FieldSource.fields?_without _ _ _
  rw [ofJson?, source, Option.bind_eq_bind, Option.bind_some]
  rw [required "name" Value.string? rfl rfl,
    defaulted "architectures" [] Value.strings? rfl (Value.strings?_ofStrings _),
    required "model_type" Value.string? rfl rfl,
    required "version" Value.string? rfl rfl,
    defaulted "runtime" "" Value.string? rfl rfl,
    required "download_at_runtime" Value.bool? rfl rfl,
    required "download_auth_required" Value.bool? rfl rfl,
    defaulted "dtype" "" Value.string? rfl rfl,
    defaulted "chat_template" "" Value.string? rfl rfl,
    defaulted "allow_remote_files" false Value.bool? rfl rfl,
    required "model_file_size" Value.string? rfl rfl,
    required "disk_storage_requirement" Value.string? rfl rfl,
    required "bytes_per_token" Value.unsigned? rfl (Value.unsigned?_ofUnsigned _),
    required "model_token_limit" Value.unsigned? rfl (Value.unsigned?_ofUnsigned _),
    defaulted "reasoning_parser" "" Value.string? rfl rfl,
    defaulted "tool_call_parser" "" Value.string? rfl rfl]
  by_cases stated : ∀ name ∈ requiredNames, name ∉ removed
  · rw [if_pos stated]
    simp only [requiredNames, List.forall_mem_cons] at stated
    simp [stated, withDefaults]
  · rw [if_neg stated]
    simp only [not_forall, not_not] at stated
    rcases stated with ⟨name, listed, gone⟩
    simp only [requiredNames, List.mem_cons, List.not_mem_nil, or_false] at listed
    rcases listed with rfl | rfl | rfl | rfl | rfl | rfl | rfl | rfl | rfl <;> simp [gone]

theorem survives_toJson (card : ModelCard) : card.toJson.Survives Json.depthLimit := by
  refine .object (by simp) ?_
  simp only [List.forall_mem_cons]
  exact ⟨.string _, Json.survives_ofStrings _, .string _, .string _, .string _, .bool _, .bool _,
    .string _, .string _, .bool _, .string _, .string _, Json.survives_ofUnsigned _,
    Json.survives_ofUnsigned _, .string _, .string _, by simp⟩

end ModelCard

namespace LaunchSpec

/-- The names of the fields that have to be stated. -/
def requiredNames : List String :=
  ["model_name", "model_run_params", "disallow_lora"]

/-- Launch parameters with the defaults in place of the fields of the given names. -/
def withDefaults (launch : LaunchSpec) (removed : List String) : LaunchSpec :=
  { launch with
    baseCommand := if "base_command" ∈ removed then "" else launch.baseCommand
    leaderCommand := if "ray_leader_base_command" ∈ removed then "" else launch.leaderCommand
    workerCommand := if "ray_worker_base_command" ∈ removed then "" else launch.workerCommand }

/--
Launch parameters are decoded from what is left of their object, if all is left that has to be
stated.
-/
theorem ofJson?_without (launch : LaunchSpec) (removed : List String) :
    ofJson? (launch.toJson.without removed) =
      if ∀ name ∈ requiredNames, name ∉ removed then some (launch.withDefaults removed)
      else none := by
  have required := FieldSource.required_left launch.toJson removed
  have defaulted := FieldSource.defaulted_left launch.toJson removed
  have source : (launch.toJson.without removed).fields? fieldNames =
      some (FieldSource.left launch.toJson removed) := FieldSource.fields?_without _ _ _
  rw [ofJson?, source]
  simp only [Option.bind_eq_bind, Option.bind_some]
  rw [defaulted "base_command" "" Value.string? rfl rfl,
    required "model_name" Value.string? rfl rfl,
    required "model_run_params" Value.stringMap? rfl (Value.stringMap?_ofStringMap _),
    required "disallow_lora" Value.bool? rfl rfl,
    defaulted "ray_leader_base_command" "" Value.string? rfl rfl,
    defaulted "ray_worker_base_command" "" Value.string? rfl rfl]
  by_cases stated : ∀ name ∈ requiredNames, name ∉ removed
  · rw [if_pos stated]
    simp only [requiredNames, List.forall_mem_cons] at stated
    simp [stated, withDefaults]
  · rw [if_neg stated]
    simp only [not_forall, not_not] at stated
    rcases stated with ⟨name, listed, gone⟩
    simp only [requiredNames, List.mem_cons, List.not_mem_nil, or_false] at listed
    rcases listed with rfl | rfl | rfl <;> simp [gone]

theorem survives_toJson (launch : LaunchSpec) : launch.toJson.Survives Json.depthLimit := by
  refine .object (by simp) ?_
  simp only [List.forall_mem_cons]
  exact ⟨.string _, .string _, Json.survives_ofStringMap _, .bool _, .string _, .string _, by simp⟩

end LaunchSpec

/--
Cards, launch parameters and settings are read back from the text of their objects. When members
are removed, the fields with a default have it then, and the others cannot be missing.
-/
theorem records_survive :
    (∀ card : ModelCard, ModelCard.ofJson? card.toJson = some card ∧
      ∀ removed : List String,
        Value.ofBytes (Text.bytes (card.toJson.without removed).render) =
          .ok (card.toJson.without removed) ∧
        ModelCard.ofJson? (card.toJson.without removed) =
          if ∀ name ∈ ModelCard.requiredNames, name ∉ removed then
            some (card.withDefaults removed)
          else none) ∧
    (∀ launch : LaunchSpec, LaunchSpec.ofJson? launch.toJson = some launch ∧
      ∀ removed : List String,
        Value.ofBytes (Text.bytes (launch.toJson.without removed).render) =
          .ok (launch.toJson.without removed) ∧
        LaunchSpec.ofJson? (launch.toJson.without removed) =
          if ∀ name ∈ LaunchSpec.requiredNames, name ∉ removed then
            some (launch.withDefaults removed)
          else none) ∧
    ∀ settings : Settings,
      Settings.ofBytes (Text.bytes settings.toJson.render) = .ok settings ∧
      ∀ removed : List String,
        Settings.ofBytes (Text.bytes (settings.toJson.without removed).render) =
          .ok (settings.withDefaults removed) := by
  refine ⟨fun card => ⟨card.ofJson?_without [], fun removed => ⟨?card, card.ofJson?_without _⟩⟩,
    fun launch => ⟨launch.ofJson?_without [], fun removed => ⟨?launch, launch.ofJson?_without _⟩⟩,
    fun settings => ⟨settings.ofBytes_without [], settings.ofBytes_without⟩⟩
  case card => exact Json.ofBytes_render (card.survives_toJson.without removed)
  case launch => exact Json.ofBytes_render (launch.survives_toJson.without removed)

end ServingPreset
