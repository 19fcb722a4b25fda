import ServingPreset.Generation
import ServingPreset.ModelIndex
import ServingPreset.Resolver.KnownModels
import ServingPreset.SecretVault

/-!
# Resolving model names

A name is looked up in lower case. A name that is not registered may be the
identifier of a repository: then the preset that stands for the repository is looked
up, or a preset is generated, and the model is registered under the lowercase name.
A resolution that fails changes nothing, so that a later one tries again.
-/

namespace ServingPreset

/-- A source of presets: generates the preset of a repository with a token. -/
abbrev PresetSource := String → String → Generation

/-- The outcome of a resolution. -/
structure Resolution where
  /-- The model, or what kept it from being found. -/
  result : Except Stop ServedModel
  tokens : List String
  /-- The requests of the generation, by their URLs. -/
  requests : List String
  index : ModelIndex
deriving Inhabited

namespace Resolution

/-- The outcome of a lookup that neither hands out a token nor asks a hub. -/
def ofLookup (index : ModelIndex) (result : Except Problem ServedModel) : Resolution :=
  ⟨result.mapError Stop.problem, [], [], index⟩

end Resolution

namespace Resolver

/-- The token for a repository; public models need none, so no failure to get one counts. -/
def tokenOrNone (vault : SecretVault) (secret zone : String) : String :=
  match vault.token secret zone with
  | .ok token => token
  | .error _ => ""

/-- Enroll a generated preset: register its model if the runtime can serve it. -/
def enroll (index : ModelIndex) (name : String) (preset : Preset) :
    Except Stop (ServedModel × ModelIndex) :=
  if KnownModels.isServable preset.card.architectures then
    let model := ServedModel.ofPreset preset
    match index.register name model with
    | .ok grown => .ok (model, grown)
    | .error fault => .error (.fault fault)
  else
    .error (.problem (.unsupportedArchitecture name
      (", ".intercalate preset.card.architectures)))

/-- Generate the model of a repository and register it under its lowercase name. -/
def generate (index : ModelIndex) (vault : SecretVault) (source : PresetSource)
    (name secret zone : String) : Resolution :=
  let token := tokenOrNone vault secret zone
  let generation := source name token
  match generation.result.bind (enroll index name) with
  | .ok (model, grown) => ⟨.ok model, [token], generation.requests, grown⟩
  | .error stop => ⟨.error stop, [token], generation.requests, index⟩

/-- Find the model of a name. -/
def resolve (index : ModelIndex) (vault : SecretVault) (source : PresetSource)
    (modelName secret zone : String) : Resolution :=
  let name := Text.lowercase modelName
  match index.get? name with
  | some model => .ofLookup index (.ok model)
  | none =>
      if !name.toList.contains '/' then .ofLookup index (.error (.notRegistered name))
      else
        match KnownModels.alias? name with
        | some preset =>
            match index.get? preset with
            | some model => .ofLookup index (.ok model)
            | none => .ofLookup index (.error (.notRegistered preset))
        | none => generate index vault source name secret zone

end Resolver

end ServingPreset
