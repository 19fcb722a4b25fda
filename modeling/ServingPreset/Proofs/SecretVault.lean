import Mathlib.Data.List.Induction
import ServingPreset.SecretVault

/-!
# Tokens of filled vaults

A vault is filled one secret after the other, and a secret takes the whole place of an earlier
one of its name and zone (`SecretVault.ofSecrets_append`). So what a filled vault has under a
name and a zone is what its last secret for them has, or nothing if there is none
(`SecretVault.contents_ofSecrets`), and secrets for other names and zones do not count.

A zone that is left out is settled before the vault is asked, so it is the same as asking for
the default zone by name, whatever the vault is.
-/

namespace ServingPreset

/-- Whether a secret is the one of a name and a zone. -/
def Secret.IsFor (name zone : String) (secret : Secret) : Prop :=
  secret.zone = zone ∧ secret.name = name

instance (name zone : String) (secret : Secret) : Decidable (secret.IsFor name zone) :=
  inferInstanceAs (Decidable (_ ∧ _))

namespace SecretVault

variable {vault : SecretVault} {secrets earlier later left right : List Secret} {secret : Secret}
  {name zone : String} {problem : Problem}

/-! ### Filling a vault -/

/-- The vault without secrets. -/
def empty : SecretVault where
  contents _ _ := .ok none

/-- A vault with one more secret, which replaces the one of the same name and zone. -/
def put (vault : SecretVault) (secret : Secret) : SecretVault where
  contents name zone :=
    if secret.IsFor name zone then .ok (some secret.entries) else vault.contents name zone

theorem ofSecrets_append (secrets : List Secret) (secret : Secret) :
    ofSecrets (secrets ++ [secret]) = (ofSecrets secrets).put secret := by
  rw [ofSecrets, put, mk.injEq]
  funext name zone
  rw [List.reverse_concat, List.find?_cons]
  by_cases asked : secret.zone = zone ∧ secret.name = name
  · simp [asked, Secret.IsFor]
  · have passed : (secret.zone == zone && secret.name == name) = false := by
      simpa using asked
    simp [passed, asked, Secret.IsFor, ofSecrets]

theorem ofSecrets_eq_foldl (secrets : List Secret) :
    ofSecrets secrets = secrets.foldl put empty := by
  induction secrets using List.reverseRecOn with
  | nil => rfl
  | append_singleton earlier secret ih =>
      rw [ofSecrets_append, ih, List.foldl_append]
      rfl

/-- Only the last secret for a name and a zone counts. -/
theorem contents_ofSecrets (secrets : List Secret) (name zone : String) :
    (ofSecrets secrets).contents name zone =
      .ok (((secrets.filter fun secret => secret.IsFor name zone).getLast?).map (·.entries)) := by
  induction secrets using List.reverseRecOn with
  | nil => rfl
  | append_singleton earlier secret ih =>
      rw [ofSecrets_append, put, List.filter_append]
      by_cases asked : secret.IsFor name zone
      · simp [asked]
      · simp [asked, ih]

theorem getLast?_filter_of_last (asked : secret.IsFor name zone)
    (unreplaced : ∀ other ∈ later, ¬other.IsFor name zone) :
    ((earlier ++ secret :: later).filter fun secret => secret.IsFor name zone).getLast? =
      some secret := by
  have behind : (later.filter fun secret => secret.IsFor name zone) = [] := by
    simpa [List.filter_eq_nil_iff] using unreplaced
  simp [List.filter_append, asked, behind]

/-! ### Asking for a token -/

theorem effectiveZone_eq (zone : String) :
    effectiveZone zone = if zone = "" then "default" else zone := by
  simp [effectiveZone, defaultZone]

theorem token_of_zone {other : String} (same : effectiveZone zone = effectiveZone other) :
    vault.token name zone = vault.token name other := by
  rw [token, token, same]

theorem token_of_named (named : name ≠ "") :
    vault.token name zone =
      (vault.contents name (effectiveZone zone) >>= fun contents =>
        match contents with
        | none => .error (.secretNotFound name (effectiveZone zone))
        | some entries =>
            match entries.get? tokenKey with
            | some token => .ok token
            | none => .error (.secretKeyMissing name (effectiveZone zone))) := by
  rw [token, if_neg (by simpa using named)]
  rfl

theorem token_of_failure (named : name ≠ "")
    (failed : vault.contents name (effectiveZone zone) = .error problem) :
    vault.token name zone = .error problem := by
  rw [token_of_named named, failed]
  rfl

/-- A filled vault without a secret for the name and the zone. -/
theorem token_of_missing (named : name ≠ "")
    (missing : ∀ secret ∈ secrets, ¬secret.IsFor name (effectiveZone zone)) :
    (ofSecrets secrets).token name zone =
      .error (.secretNotFound name (effectiveZone zone)) := by
  have unfound : (secrets.filter fun secret => secret.IsFor name (effectiveZone zone)) = [] := by
    simpa [List.filter_eq_nil_iff] using missing
  rw [token_of_named named, contents_ofSecrets, unfound]
  rfl

/-- A filled vault, by its last secret for the name and the zone. -/
theorem token_of_last (named : name ≠ "") (asked : secret.IsFor name (effectiveZone zone))
    (unreplaced : ∀ other ∈ later, ¬other.IsFor name (effectiveZone zone)) :
    (ofSecrets (earlier ++ secret :: later)).token name zone =
      match secret.entries.get? tokenKey with
      | some token => .ok token
      | none => .error (.secretKeyMissing name (effectiveZone zone)) := by
  rw [token_of_named named, contents_ofSecrets, getLast?_filter_of_last asked unreplaced]
  rfl

theorem token_of_filter_eq
    (same : (left.filter fun secret => secret.IsFor name (effectiveZone zone)) =
      right.filter fun secret => secret.IsFor name (effectiveZone zone)) :
    (ofSecrets left).token name zone = (ofSecrets right).token name zone := by
  simp only [token, contents_ofSecrets, same]

/--
No name gives the empty token, and a zone that is left out is the default one, whatever the
vault is; its failures are passed on. A vault that is filled secret by secret has the token of
the last secret for the name and the zone, which replaced those before it: there is a problem
if no secret is for them or the last one has no token, and other secrets do not count.
-/
theorem token_of_any_vault :
    (∀ (vault : SecretVault) (zone : String), vault.token "" zone = .ok "") ∧
    (∀ (vault : SecretVault) (name : String),
      vault.token name "" = vault.token name "default") ∧
    (∀ secrets : List Secret, ofSecrets secrets = secrets.foldl put empty) ∧
    (∀ (left right : List Secret) (name zone : String),
      let place := if zone = "" then "default" else zone
      ((left.filter fun secret => secret.IsFor name place) =
        right.filter fun secret => secret.IsFor name place) →
          (ofSecrets left).token name zone = (ofSecrets right).token name zone) ∧
    ∀ name zone : String, name ≠ "" →
      let place := if zone = "" then "default" else zone
      (∀ (vault : SecretVault) (problem : Problem),
        vault.contents name place = .error problem → vault.token name zone = .error problem) ∧
      (∀ secrets : List Secret, (∀ secret ∈ secrets, ¬secret.IsFor name place) →
        (ofSecrets secrets).token name zone = .error (.secretNotFound name place)) ∧
      ∀ (earlier later : List Secret) (secret : Secret), secret.IsFor name place →
        (∀ other ∈ later, ¬other.IsFor name place) →
          (ofSecrets (earlier ++ secret :: later)).token name zone =
            match secret.entries.get? "HF_TOKEN" with
            | some token => .ok token
            | none => .error (.secretKeyMissing name place) := by
  simp only [← effectiveZone_eq]
  refine ⟨fun _ _ => rfl, fun _ _ => token_of_zone rfl, ofSecrets_eq_foldl,
    fun _ _ _ _ => token_of_filter_eq, ?_⟩
  intro name zone named
  refine ⟨?_, ?_, ?_⟩
  · intro vault problem
    exact token_of_failure named
  · intro secrets
    exact token_of_missing named
  · intro earlier later secret
    exact token_of_last named

/-- A secret that was replaced by one without a token leaves none behind, and a failing vault
gives the empty token for no name. -/
theorem token_of_any_vault_replaced :
    let first : Secret := ⟨"default", "hf", NameMap.ofList [("HF_TOKEN", "old")]⟩
    let second : Secret := ⟨"default", "hf", NameMap.ofList [("token", "new")]⟩
    let foreign : Secret := ⟨"team", "hf", NameMap.ofList [("HF_TOKEN", "theirs")]⟩
    let failing := broken .notRegistered
    (ofSecrets [first, second, foreign]).token "hf" "" = .error (.secretKeyMissing "hf" "default") ∧
      (ofSecrets [second, first, foreign]).token "hf" "default" = .ok "old" ∧
      (ofSecrets [first, second, foreign]).token "hf" "" =
        (ofSecrets [first, second]).token "hf" "" ∧
      (ofSecrets [foreign]).token "hf" "" = .error (.secretNotFound "hf" "default") ∧
      failing.token "hf" "" = .error (.notRegistered "hf") ∧
      failing.token "" "team" = .ok "" := by
  intro first second foreign failing
  rcases token_of_any_vault with ⟨unnamed, _, _, others, named⟩
  rcases named "hf" "" (by decide) with ⟨failed, missing, last⟩
  rcases named "hf" "default" (by decide) with ⟨_, _, lastByName⟩
  refine ⟨?_, ?_, ?_, ?_, ?_, unnamed failing "team"⟩
  · exact last [first] [foreign] second (by decide) (by decide)
  · exact lastByName [second] [foreign] first (by decide) (by decide)
  · exact others [first, second, foreign] [first, second] "hf" "" (by decide)
  · exact missing [foreign] (by decide)
  · exact failed failing _ rfl

end SecretVault

end ServingPreset
