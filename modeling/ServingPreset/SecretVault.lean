import ServingPreset.NameMap
import ServingPreset.Problem

/-!
# Secrets

Where the tokens of gated models are kept. A secret has a name inside a zone and
holds texts under keys; the token stands under a fixed key. Asking without a name
means that no secret was set up, which gives the empty token.
-/

namespace ServingPreset

/-- Read access to secrets by name and zone: nothing where there is no such secret. -/
structure SecretVault where
  /-- The contents of a secret. -/
  contents : String → String → Except Problem (Option (NameMap String))

/-- A secret as it is put into a vault. -/
structure Secret where
  zone : String
  name : String
  entries : NameMap String
deriving DecidableEq, Inhabited

namespace SecretVault

/-- The key of the token in a secret. -/
def tokenKey : String := "HF_TOKEN"

/-- The zone of a secret that is asked for without one. -/
def defaultZone : String := "default"

/-- The zone in which a secret is looked for. -/
def effectiveZone (zone : String) : String :=
  if zone.isEmpty then defaultZone else zone

/-- The token that a secret holds. -/
def token (vault : SecretVault) (name zone : String) : Except Problem String :=
  if name.isEmpty then .ok ""
  else do
    let zone := effectiveZone zone
    match ← vault.contents name zone with
    | none => .error (.secretNotFound name zone)
    | some entries =>
        match entries.get? tokenKey with
        | some token => return token
        | none => .error (.secretKeyMissing name zone)

/-- The vault of a list of secrets, of which a later one replaces an earlier one. -/
def ofSecrets (secrets : List Secret) : SecretVault where
  contents name zone :=
    .ok ((secrets.reverse.find? fun secret => secret.zone == zone && secret.name == name).map
      (·.entries))

/-- The vault whose contents cannot be read. -/
def broken (problem : String → Problem) : SecretVault where
  contents name _ := .error (problem name)

end SecretVault

end ServingPreset
