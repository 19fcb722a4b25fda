import ServingPreset.Proofs.Session.History

/-!
# Secrets reach the token and nothing else

What a vault holds decides the token that a source is asked with, and a vault that fails
stands for the empty token. So with a source that gives the same whatever the token, two
resolutions with different vaults differ in the token at most (`resolve_eq_with_tokens`). A
resolution that generates nothing has the same outcome with every vault and every source.
-/

namespace ServingPreset

/-- A source that gives the same whatever the token. -/
def PresetSource.IgnoresToken (source : PresetSource) : Prop :=
  ∀ name token other, source name token = source name other

theorem PresetSource.ofResponses_ignoresToken (endpoint : String) (tokenAttached : Bool)
    (responses : NameMap Response) : (ofResponses endpoint tokenAttached responses).IgnoresToken :=
  fun _ _ _ => rfl

namespace Resolver

variable {index : ModelIndex} {vault other : SecretVault} {source : PresetSource}
  {modelName secret secret' zone zone' : String}

theorem needsGeneration_iff {name : String} :
    NeedsGeneration index name ↔
      index.get? name = none ∧ '/' ∈ name.toList ∧ name ∉ KnownModels.aliases.map Prod.fst := by
  rw [← KnownModels.alias?_eq_none_iff]
  constructor
  · intro needed
    exact ⟨needed.unregistered, needed.slashed, needed.unlisted⟩
  · rintro ⟨unregistered, slashed, unlisted⟩
    exact ⟨unregistered, slashed, unlisted⟩

/-- Where nothing has to be generated, the index decides the outcome. -/
theorem exists_lookup_of_not_needed
    (idle : ¬NeedsGeneration index (Text.lowercase modelName)) :
    ∃ result, ∀ vault source secret zone,
      resolve index vault source modelName secret zone = .ofLookup index result := by
  cases own : index.get? (Text.lowercase modelName) with
  | some model => exact ⟨_, fun _ _ _ _ => resolve_of_registered own⟩
  | none =>
      by_cases slashed : '/' ∈ (Text.lowercase modelName).toList
      · cases known : KnownModels.alias? (Text.lowercase modelName) with
        | none => exact absurd ⟨own, slashed, known⟩ idle
        | some preset =>
            cases found : index.get? preset with
            | none => exact ⟨_, fun _ _ _ _ => resolve_of_vacant own slashed known found⟩
            | some model => exact ⟨_, fun _ _ _ _ => resolve_of_stood own slashed known found⟩
      · exact ⟨_, fun _ _ _ _ => resolve_of_bare own slashed⟩

theorem tokens_generate {name : String} :
    (generate index vault source name secret zone).tokens = [tokenOrNone vault secret zone] := by
  simp only [generate]
  split <;> rfl

theorem requests_generate {name : String} :
    (generate index vault source name secret zone).requests =
      (source name (tokenOrNone vault secret zone)).requests := by
  simp only [generate]
  split <;> rfl

theorem result_generate {name : String} :
    (generate index vault source name secret zone).result =
      ((source name (tokenOrNone vault secret zone)).result.bind (enroll index name)).map
        Prod.fst := by
  simp only [generate]
  cases (source name (tokenOrNone vault secret zone)).result.bind (enroll index name) <;> rfl

theorem generate_eq_with_tokens {name : String} (ignores : source.IgnoresToken) :
    generate index vault source name secret zone =
      { generate index other source name secret' zone' with
        tokens := [tokenOrNone vault secret zone] } := by
  have same := ignores name (tokenOrNone vault secret zone) (tokenOrNone other secret' zone')
  simp only [generate, same]
  split <;> rfl

theorem tokens_resolve_of_needed (needed : NeedsGeneration index (Text.lowercase modelName)) :
    (resolve index vault source modelName secret zone).tokens =
      [tokenOrNone vault secret zone] := by
  rw [resolve_of_needed needed, tokens_generate]

theorem resolve_eq_with_tokens (ignores : source.IgnoresToken) :
    resolve index vault source modelName secret zone =
      { resolve index other source modelName secret' zone' with
        tokens := (resolve index vault source modelName secret zone).tokens } := by
  by_cases needed : NeedsGeneration index (Text.lowercase modelName)
  · rw [resolve_of_needed needed, resolve_of_needed needed, tokens_generate]
    exact generate_eq_with_tokens ignores
  · rcases exists_lookup_of_not_needed needed with ⟨result, lookup⟩
    rw [lookup, lookup]

/-- Whether the outcome of a resolution is another one with another vault, for some two of them. -/
def Consults (index : ModelIndex) (source : PresetSource) (modelName : String) : Prop :=
  ∃ vault other secret zone, resolve index vault source modelName secret zone ≠
    resolve index other source modelName secret zone

theorem consults_iff :
    Consults index source modelName ↔ NeedsGeneration index (Text.lowercase modelName) := by
  constructor
  · rintro ⟨vault, other, secret, zone, differ⟩
    by_contra idle
    rcases exists_lookup_of_not_needed idle with ⟨result, lookup⟩
    exact differ ((lookup vault source secret zone).trans (lookup other source secret zone).symm)
  · intro needed
    -- Two vaults that hold different tokens are told apart by what is handed out.
    let holding (token : String) : SecretVault :=
      ⟨fun _ _ => .ok (some (NameMap.ofList [(SecretVault.tokenKey, token)]))⟩
    have handed (token : String) : tokenOrNone (holding token) "secret" "zone" = token := rfl
    refine ⟨holding "first", holding "second", "secret", "zone", ?_⟩
    intro same
    have tokens := congrArg Resolution.tokens same
    rw [tokens_resolve_of_needed needed, tokens_resolve_of_needed needed, handed, handed] at tokens
    simp at tokens

/--
With a source that ignores the token, neither the vault nor the secret matters to what a
resolution gives, asks for and registers. Whatever the source, it is asked for the name with
one token where a preset has to be generated, the empty one if the vault fails; elsewhere no
token is handed out, and the outcome is the same with all vaults and sources.
-/
theorem resolve_with_any_vault (index : ModelIndex) (source : PresetSource) (modelName : String)
    (ignores : source.IgnoresToken) :
    let name := Text.lowercase modelName
    let needed := index.get? name = none ∧ '/' ∈ name.toList ∧
      name ∉ KnownModels.aliases.map Prod.fst
    (∀ vault other secret secret' zone zone',
        let first := resolve index vault source modelName secret zone
        let second := resolve index other source modelName secret' zone'
        first.result = second.result ∧ first.requests = second.requests ∧
          first.index = second.index) ∧
      (Consults index source modelName ↔ needed) ∧
      ∀ (asked : PresetSource) (vault : SecretVault) (secret zone : String),
        let resolution := resolve index vault asked modelName secret zone
        let token := match vault.token secret zone with
          | .ok token => token
          | .error _ => ""
        (needed → resolution.tokens = [token] ∧
          resolution.requests = (asked name token).requests ∧
          resolution.result =
            ((asked name token).result.bind (enroll index name)).map Prod.fst) ∧
        (¬needed → resolution.tokens = [] ∧ ∀ other unasked secret' zone',
          resolution = resolve index other unasked modelName secret' zone') := by
  intro name needed
  refine ⟨?_, consults_iff.trans needsGeneration_iff, ?_⟩
  · intro vault other secret secret' zone zone' first second
    have same : first = { second with tokens := first.tokens } := resolve_eq_with_tokens ignores
    rw [same]
    exact ⟨rfl, rfl, rfl⟩
  · intro asked vault secret zone resolution token
    refine ⟨fun given => ?_, fun idle => ?_⟩
    · have generated : resolution = generate index vault asked name secret zone :=
        resolve_of_needed (needsGeneration_iff.mpr given)
      rw [generated]
      exact ⟨tokens_generate, requests_generate, result_generate⟩
    · rcases exists_lookup_of_not_needed (mt needsGeneration_iff.mp idle) with ⟨result, lookup⟩
      have looked : resolution = .ofLookup index result := lookup vault asked secret zone
      rw [looked]
      exact ⟨rfl, fun other unasked secret' zone' => (lookup other unasked secret' zone').symm⟩

open SmallSession in
/-- A gated model, asked for with a vault that holds the token and with one that fails. -/
theorem resolve_with_any_vault_newModel :
    let source := hubSource NameMap.empty
    let broken := SecretVault.broken fun name => .secretNotFound name "default"
    let given := resolve ModelIndex.empty secretVault source "Org/New-Model" "hf" ""
    let failed := resolve ModelIndex.empty broken source "Org/New-Model" "hf" ""
    source.IgnoresToken ∧ given.tokens = ["hf_abc"] ∧ failed.tokens = [""] ∧
      given.result = failed.result ∧ given.requests = failed.requests ∧
      given.index = failed.index := by
  intro source broken given failed
  have ignores : source.IgnoresToken := PresetSource.ofResponses_ignoresToken _ _ _
  have needed : ModelIndex.empty.get? (Text.lowercase "Org/New-Model") = none ∧
      '/' ∈ (Text.lowercase "Org/New-Model").toList ∧
      Text.lowercase "Org/New-Model" ∉ KnownModels.aliases.map Prod.fst := by
    decide +kernel
  rcases resolve_with_any_vault ModelIndex.empty source "Org/New-Model" ignores with
    ⟨same, _, tokens⟩
  exact ⟨ignores, ((tokens source secretVault "hf" "").1 needed).1,
    ((tokens source broken "hf" "").1 needed).1, same secretVault broken "hf" "hf" "" ""⟩

end Resolver

end ServingPreset
