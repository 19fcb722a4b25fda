import ServingPreset.Proofs.Resolver.Secrets
import ServingPreset.Proofs.Text.Cut

/-!
# Names that are not usable

A name is usable if it is registered or has the form `owner/name` with both parts. The
resolution of other names does not go by that form: it asks whether there is a slash. So a
name without one is refused at once, and one that begins with a slash or ends with its only
slash is generated like an identifier. For it a token is handed out and the hub is asked, and
what the source then gives is registered under the name.
-/

namespace ServingPreset

namespace ModelIndex

variable {index : ModelIndex} {name : String}

theorem isIdentifier_of_split {owner rest : List Char} (fresh : '/' ∉ owner)
    (split : name.toList = owner ++ '/' :: rest) :
    isIdentifier name = (!owner.isEmpty && !rest.isEmpty) := by
  rw [isIdentifier, split, Text.afterFirst?_append fresh, Text.beforeFirst_append fresh]

/-- A slash that makes no identifier stands at one end of the name. -/
theorem slash_at_end_of_not_isIdentifier (slashed : '/' ∈ name.toList)
    (malformed : isIdentifier name = false) :
    name.toList.head? = some '/' ∨ ∃ owner, '/' ∉ owner ∧ name.toList = owner ++ ['/'] := by
  rcases List.eq_append_cons_of_mem slashed with ⟨owner, rest, split, fresh⟩
  rw [isIdentifier_of_split fresh split] at malformed
  cases owner with
  | nil =>
      left
      rw [split]
      rfl
  | cons char others =>
      right
      cases rest with
      | nil => exact ⟨char :: others, fresh, split⟩
      | cons next later => contradiction

theorem isUsable_eq_false_iff :
    index.isUsable name = false ↔ index.get? name = none ∧ isIdentifier name = false := by
  simp [isUsable, has, NameMap.contains, get?]

end ModelIndex

theorem KnownModels.isIdentifier_of_alias {repository preset : String}
    (known : alias? repository = some preset) : ModelIndex.isIdentifier repository = true := by
  have formed : ∀ row ∈ aliases, ModelIndex.isIdentifier row.1 = true := by decide +kernel
  rcases Option.map_eq_some_iff.mp known with ⟨row, found, _⟩
  have same := List.find?_some found
  rw [← eq_of_beq same]
  exact formed row (List.mem_of_find?_eq_some found)

namespace Resolver

variable {index : ModelIndex} {vault : SecretVault} {source : PresetSource}
  {modelName secret zone : String}

/-- A slash is all that it takes for a name that is not usable to be generated. -/
theorem needsGeneration_iff_of_unusable {name : String} (unusable : index.isUsable name = false) :
    NeedsGeneration index name ↔ '/' ∈ name.toList := by
  rcases ModelIndex.isUsable_eq_false_iff.mp unusable with ⟨unregistered, malformed⟩
  constructor
  · exact fun needed => needed.slashed
  · intro slashed
    refine ⟨unregistered, slashed, ?_⟩
    cases known : KnownModels.alias? name with
    | none => rfl
    | some preset =>
        rw [KnownModels.isIdentifier_of_alias known] at malformed
        contradiction

theorem resolve_of_stopped {stop : Stop} (needed : NeedsGeneration index (Text.lowercase modelName))
    (stopped : (source (Text.lowercase modelName) (tokenOrNone vault secret zone)).result =
      .error stop) :
    resolve index vault source modelName secret zone =
      ⟨.error stop, [tokenOrNone vault secret zone],
        (source (Text.lowercase modelName) (tokenOrNone vault secret zone)).requests, index⟩ := by
  rw [resolve_of_needed needed, generate_of_stopped stopped]

end Resolver

namespace SessionState

/--
A name that is not usable is refused, without a token and without a request, exactly when it
has no slash. If it has one, it stands at an end of the name, and the name is generated: a
token is handed out, the requests are those of the source, a generation that fails fails the
resolution, and a model that can be served is registered under the name.
-/
theorem resolve_of_unusable (vault : SecretVault) (source : NameMap Response → PresetSource)
    (state : SessionState) (modelName secret zone : String)
    (unusable : state.index.isUsable (Text.lowercase modelName) = false) :
    let name := Text.lowercase modelName
    let token := Resolver.tokenOrNone vault secret zone
    let generation := source state.responses name token
    let taken := state.step vault source (.resolve modelName secret zone)
    (((∃ stop, taken.2.result = .error stop) ∧ taken.2.tokens = [] ∧ taken.2.requests = [] ∧
        taken.1 = state) ↔ '/' ∉ name.toList) ∧
      ('/' ∉ name.toList → taken.2.result = .error (.problem (.notRegistered name))) ∧
      ('/' ∈ name.toList →
        (name.toList.head? = some '/' ∨ ∃ owner, '/' ∉ owner ∧ name.toList = owner ++ ['/']) ∧
        taken.2.tokens = [token] ∧ taken.2.requests = generation.requests ∧
        (∀ stop, generation.result = .error stop →
          taken.2.result = .error stop ∧ taken.1 = state) ∧
        ∀ preset, generation.result = .ok preset →
          KnownModels.isServable preset.card.architectures = true →
          taken.2.result = .ok (some (ServedModel.ofPreset preset)) ∧
            taken.1.index.get? name = some (ServedModel.ofPreset preset)) := by
  intro name token generation taken
  rcases ModelIndex.isUsable_eq_false_iff.mp unusable with ⟨unregistered, malformed⟩
  have bareTaken (bare : '/' ∉ name.toList) :
      taken = (state, ⟨.error (.problem (.notRegistered name)), [], [], state.index.names⟩) := by
    simp only [taken, step, Resolver.resolve_of_bare unregistered bare]
    rfl
  have needed (slashed : '/' ∈ name.toList) : Resolver.NeedsGeneration state.index name :=
    (Resolver.needsGeneration_iff_of_unusable unusable).mpr slashed
  have handed (slashed : '/' ∈ name.toList) : taken.2.tokens = [token] :=
    Resolver.tokens_resolve_of_needed (needed slashed)
  refine ⟨⟨?_, ?_⟩, ?_, ?_⟩
  · rintro ⟨_, none, _⟩ slashed
    rw [handed slashed] at none
    contradiction
  · intro bare
    rw [bareTaken bare]
    exact ⟨⟨_, rfl⟩, rfl, rfl, rfl⟩
  · intro bare
    rw [bareTaken bare]
  · intro slashed
    refine ⟨ModelIndex.slash_at_end_of_not_isIdentifier slashed malformed, handed slashed, ?_, ?_,
      ?_⟩
    · simp only [taken, step, Resolver.resolve_of_needed (needed slashed),
        Resolver.requests_generate]
      rfl
    · intro stop stopped
      simp only [taken, step, Resolver.resolve_of_stopped (needed slashed) stopped]
      exact ⟨rfl, trivial⟩
    · intro preset generated servable
      have enrolls : Resolver.Enrolls state.index vault (source state.responses) name secret zone
          preset := ⟨needed slashed, generated, servable⟩
      simp only [taken, step, Resolver.resolve_of_enrolls enrolls]
      exact ⟨rfl, NameMap.get?_insert_self _ _ _⟩

open SmallSession in
/-- An owner without a model costs a token and a request. -/
theorem resolve_of_unusable_owner :
    let state := initial NameMap.empty
    let taken := state.step secretVault hubSource (.resolve "Org/" "hf" "")
    state.index.isUsable (Text.lowercase "Org/") = false ∧
      '/' ∈ (Text.lowercase "Org/").toList ∧ taken.2.tokens = ["hf_abc"] ∧
      taken.2.requests = ["https://huggingface.co/api/models/org/tree/main?recursive=true"] := by
  intro state taken
  have unusable : state.index.isUsable (Text.lowercase "Org/") = false := by decide +kernel
  have slashed : '/' ∈ (Text.lowercase "Org/").toList := by decide +kernel
  rcases resolve_of_unusable secretVault hubSource state "Org/" "hf" "" unusable with
    ⟨_, _, generated⟩
  rcases generated slashed with ⟨_, tokens, requests, _⟩
  refine ⟨unusable, slashed, tokens, requests.trans ?_⟩
  decide +kernel

open SmallSession in
/-- A slash too many in front: the name is not usable, and yet it gets a model of its own. -/
theorem unusable_and_registered :
    let state := (run secretVault hubSource (initial NameMap.empty) [listed, configured]).1
    let taken := state.step secretVault hubSource (.resolve "/Org/New-Model" "hf" "")
    state.index.isUsable (Text.lowercase "/Org/New-Model") = false ∧
      taken.2.result.isOk = true ∧ taken.2.tokens = ["hf_abc"] ∧
      taken.2.requests =
        ["https://huggingface.co/api/models/org/new-model/tree/main?recursive=true",
          "https://huggingface.co/org/new-model/resolve/main/config.json"] ∧
      taken.1.index.names = ["/org/new-model"] := by
  decide +kernel

end SessionState

end ServingPreset
