import ServingPreset.Proofs.NameMap
import ServingPreset.Resolver.Basic

/-!
# Routes of a resolution

A resolution goes one of seven ways. `Resolver.Route` lists them with the outcome on
each, and `resolve_route` says that every resolution is on the list, so that a statement
about all resolutions is a case analysis over routes.

Only a name that is unregistered, has a slash and is no known repository is generated
(`NeedsGeneration`), and only a generated model that can be served is registered.
-/

namespace ServingPreset

namespace KnownModels

/-- The preset that stands for a repository has no slash in its name. -/
theorem bare_of_alias {repository preset : String} (known : alias? repository = some preset) :
    '/' ∉ preset.toList := by
  have bare : ∀ row ∈ aliases, '/' ∉ row.2.toList := by decide +kernel
  rcases Option.map_eq_some_iff.mp known with ⟨row, found, rfl⟩
  exact bare row (List.mem_of_find?_eq_some found)

theorem alias?_eq_none_iff {repository : String} :
    alias? repository = none ↔ repository ∉ aliases.map Prod.fst := by
  simp only [alias?, Option.map_eq_none_iff, List.find?_eq_none, List.mem_map, not_exists,
    not_and, beq_iff_eq]

theorem isServable_iff {architectures : List String} :
    isServable architectures = true ↔
      architectures = [] ∨
        ∃ architecture ∈ architectures, architecture ∈ supportedArchitectures := by
  simp [isServable]

end KnownModels

namespace ModelIndex

theorem register_of_ne_empty (index : ModelIndex) {name : String} (model : ServedModel)
    (named : name ≠ "") : index.register name model = .ok ⟨index.models.insert name model⟩ := by
  simp [register, named]

theorem register_of_slash (index : ModelIndex) {name : String} (model : ServedModel)
    (slashed : '/' ∈ name.toList) :
    index.register name model = .ok ⟨index.models.insert name model⟩ := by
  apply index.register_of_ne_empty model
  rintro rfl
  simp at slashed

end ModelIndex

namespace Resolver

/-- A name whose model has to be generated. -/
structure NeedsGeneration (index : ModelIndex) (name : String) : Prop where
  unregistered : index.get? name = none
  slashed : '/' ∈ name.toList
  unlisted : KnownModels.alias? name = none

/-- The ways in which the resolution of a lowercase name can go, with the outcome on each. -/
inductive Route (index : ModelIndex) (vault : SecretVault) (source : PresetSource)
    (name secret zone : String) : Resolution → Prop where
  | registered (model : ServedModel) (found : index.get? name = some model) :
      Route index vault source name secret zone (.ofLookup index (.ok model))
  | bare (unregistered : index.get? name = none) (bare : '/' ∉ name.toList) :
      Route index vault source name secret zone (.ofLookup index (.error (.notRegistered name)))
  | stood (preset : String) (model : ServedModel) (unregistered : index.get? name = none)
      (slashed : '/' ∈ name.toList) (known : KnownModels.alias? name = some preset)
      (found : index.get? preset = some model) :
      Route index vault source name secret zone (.ofLookup index (.ok model))
  | vacant (preset : String) (unregistered : index.get? name = none)
      (slashed : '/' ∈ name.toList) (known : KnownModels.alias? name = some preset)
      (missing : index.get? preset = none) :
      Route index vault source name secret zone
        (.ofLookup index (.error (.notRegistered preset)))
  | stopped (stop : Stop) (needed : NeedsGeneration index name)
      (failed : (source name (tokenOrNone vault secret zone)).result = .error stop) :
      Route index vault source name secret zone
        ⟨.error stop, [tokenOrNone vault secret zone],
          (source name (tokenOrNone vault secret zone)).requests, index⟩
  | refused (preset : Preset) (needed : NeedsGeneration index name)
      (generated : (source name (tokenOrNone vault secret zone)).result = .ok preset)
      (unservable : KnownModels.isServable preset.card.architectures = false) :
      Route index vault source name secret zone
        ⟨.error (.problem (.unsupportedArchitecture name
            (", ".intercalate preset.card.architectures))),
          [tokenOrNone vault secret zone],
          (source name (tokenOrNone vault secret zone)).requests, index⟩
  | enrolled (preset : Preset) (needed : NeedsGeneration index name)
      (generated : (source name (tokenOrNone vault secret zone)).result = .ok preset)
      (servable : KnownModels.isServable preset.card.architectures = true) :
      Route index vault source name secret zone
        ⟨.ok (ServedModel.ofPreset preset), [tokenOrNone vault secret zone],
          (source name (tokenOrNone vault secret zone)).requests,
          ⟨index.models.insert name (ServedModel.ofPreset preset)⟩⟩

variable {index : ModelIndex} {vault : SecretVault} {source : PresetSource}
  {modelName secret zone : String}

/-! ### The outcome by what is registered -/

theorem resolve_of_registered {model : ServedModel}
    (found : index.get? (Text.lowercase modelName) = some model) :
    resolve index vault source modelName secret zone = .ofLookup index (.ok model) := by
  simp [resolve, found]

theorem resolve_of_bare (unregistered : index.get? (Text.lowercase modelName) = none)
    (bare : '/' ∉ (Text.lowercase modelName).toList) :
    resolve index vault source modelName secret zone =
      .ofLookup index (.error (.notRegistered (Text.lowercase modelName))) := by
  simp [resolve, unregistered, bare]

theorem resolve_of_stood {preset : String} {model : ServedModel}
    (unregistered : index.get? (Text.lowercase modelName) = none)
    (slashed : '/' ∈ (Text.lowercase modelName).toList)
    (known : KnownModels.alias? (Text.lowercase modelName) = some preset)
    (found : index.get? preset = some model) :
    resolve index vault source modelName secret zone = .ofLookup index (.ok model) := by
  simp [resolve, unregistered, slashed, known, found]

theorem resolve_of_vacant {preset : String}
    (unregistered : index.get? (Text.lowercase modelName) = none)
    (slashed : '/' ∈ (Text.lowercase modelName).toList)
    (known : KnownModels.alias? (Text.lowercase modelName) = some preset)
    (missing : index.get? preset = none) :
    resolve index vault source modelName secret zone =
      .ofLookup index (.error (.notRegistered preset)) := by
  simp [resolve, unregistered, slashed, known, missing]

theorem resolve_of_needed (needed : NeedsGeneration index (Text.lowercase modelName)) :
    resolve index vault source modelName secret zone =
      generate index vault source (Text.lowercase modelName) secret zone := by
  simp [resolve, needed.unregistered, needed.slashed, needed.unlisted]

/-! ### The outcome of generating -/

section Generating

variable {name : String} {preset : Preset}

theorem generate_of_stopped {stop : Stop}
    (failed : (source name (tokenOrNone vault secret zone)).result = .error stop) :
    generate index vault source name secret zone =
      ⟨.error stop, [tokenOrNone vault secret zone],
        (source name (tokenOrNone vault secret zone)).requests, index⟩ := by
  simp only [generate, failed, Except.bind]

theorem generate_of_refused
    (generated : (source name (tokenOrNone vault secret zone)).result = .ok preset)
    (unservable : KnownModels.isServable preset.card.architectures = false) :
    generate index vault source name secret zone =
      ⟨.error (.problem (.unsupportedArchitecture name
          (", ".intercalate preset.card.architectures))),
        [tokenOrNone vault secret zone],
        (source name (tokenOrNone vault secret zone)).requests, index⟩ := by
  simp [generate, generated, Except.bind, enroll, unservable]

theorem generate_of_enrolled (slashed : '/' ∈ name.toList)
    (generated : (source name (tokenOrNone vault secret zone)).result = .ok preset)
    (servable : KnownModels.isServable preset.card.architectures = true) :
    generate index vault source name secret zone =
      ⟨.ok (ServedModel.ofPreset preset), [tokenOrNone vault secret zone],
        (source name (tokenOrNone vault secret zone)).requests,
        ⟨index.models.insert name (ServedModel.ofPreset preset)⟩⟩ := by
  simp [generate, generated, Except.bind, enroll, servable, index.register_of_slash _ slashed]

/-- Generating goes one of the three routes behind the token. -/
theorem generate_route (needed : NeedsGeneration index name) :
    Route index vault source name secret zone
      (generate index vault source name secret zone) := by
  cases made : (source name (tokenOrNone vault secret zone)).result with
  | error stop =>
      rw [generate_of_stopped made]
      exact .stopped stop needed made
  | ok preset =>
      by_cases servable : KnownModels.isServable preset.card.architectures = true
      · rw [generate_of_enrolled needed.slashed made servable]
        exact .enrolled preset needed made servable
      · have unservable := Bool.eq_false_iff.mpr servable
        rw [generate_of_refused made unservable]
        exact .refused preset needed made unservable

end Generating

/-- Every resolution goes one of the routes. -/
theorem resolve_route :
    Route index vault source (Text.lowercase modelName) secret zone
      (resolve index vault source modelName secret zone) := by
  cases own : index.get? (Text.lowercase modelName) with
  | some model =>
      rw [resolve_of_registered own]
      exact .registered model own
  | none =>
      by_cases slashed : '/' ∈ (Text.lowercase modelName).toList
      · cases known : KnownModels.alias? (Text.lowercase modelName) with
        | none =>
            have needed : NeedsGeneration index (Text.lowercase modelName) :=
              ⟨own, slashed, known⟩
            rw [resolve_of_needed needed]
            exact generate_route needed
        | some preset =>
            cases found : index.get? preset with
            | none =>
                rw [resolve_of_vacant own slashed known found]
                exact .vacant preset own slashed known found
            | some model =>
                rw [resolve_of_stood own slashed known found]
                exact .stood preset model own slashed known found
      · rw [resolve_of_bare own slashed]
        exact .bare own slashed

end Resolver

end ServingPreset
