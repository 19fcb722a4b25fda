import ServingPreset.Json.Scan
import ServingPreset.Number.DecimalText

/-!
# Problems and stops

Everything that can keep a preset from being produced or a model from being found.
A `Problem` is reported to the caller with a fixed wording; a `Stop` is a problem or
a fault, which ends an operation without being a result of it.
-/

namespace ServingPreset

/-- Why a request never produced a response. -/
inductive Undelivered where
  | malformedUrl
  /-- The address has a scheme that is not served; it is shown as it was understood. -/
  | foreignScheme (shown : String)
  /-- The token cannot stand in a header. -/
  | malformedHeader
  /-- Nobody answered at the address, which is shown as it was understood. -/
  | noAnswer (shown : String)
deriving DecidableEq, Repr, Inhabited

namespace Undelivered

/-- The wording of a delivery failure. -/
def message : Undelivered → String
  | malformedUrl => "builder error"
  | foreignScheme shown => "builder error for url (" ++ shown ++ ")"
  | malformedHeader => "builder error"
  | noAnswer shown => "error sending request for url (" ++ shown ++ ")"

end Undelivered

/-- A problem met while a preset is generated or a model is resolved. -/
inductive Problem where
  /-- No repository was named. -/
  | missingRepository
  /-- The hub turned away a request that carried no token. -/
  | authRequired (url : String)
  | status (url : String) (code : Nat)
  /-- The request never produced a response. -/
  | transport (url : String) (cause : Undelivered)
  /-- The client could not be set up. -/
  | client
  | noWeightFiles
  | unreadable (url : String) (defect : Json.Defect)
  /-- The name is neither registered nor the identifier of a repository. -/
  | notRegistered (name : String)
  | unsupportedArchitecture (model architectures : String)
  | secretNotFound (name zone : String)
  | secretKeyMissing (name zone : String)
deriving DecidableEq, Repr, Inhabited

/-- Whether a status says that credentials are missing or not accepted. -/
def isRejection (code : Nat) : Bool :=
  code = 401 || code = 403

namespace Problem

/-- The wording of a problem. -/
def message : Problem → String
  | missingRepository => "model repository is required"
  | authRequired url => "authentication required for accessing " ++ url
  | status url code => "failed to fetch " ++ url ++ ": status " ++ DecimalText.render code
  | transport url cause => "failed to fetch " ++ url ++ ": " ++ cause.message
  | client => "failed to create HTTP client: builder error"
  | noWeightFiles => "no .safetensors or .bin files found"
  | unreadable url defect => "error parsing " ++ url ++ ": " ++ defect.label
  | notRegistered name => "model is not registered: " ++ name
  | unsupportedArchitecture model architectures =>
      "unsupported model architecture for " ++ model ++ ": " ++ architectures
  | secretNotFound name zone => "failed to get secret: " ++ name ++ " in namespace: " ++ zone
  | secretKeyMissing name zone =>
      "HF_TOKEN not found in secret: " ++ name ++ " in namespace: " ++ zone

/-- Whether the hub turned the request away for want of accepted credentials. -/
def isAuthRejection : Problem → Bool
  | authRequired _ => true
  | status _ code => isRejection code
  | _ => false

end Problem

/-- What ends an operation before its result. -/
inductive Stop where
  | problem (problem : Problem)
  | fault (fault : Fault)
deriving DecidableEq, Repr, Inhabited

end ServingPreset
