import ServingPreset.Json.Fields
import ServingPreset.Json.Shape
import ServingPreset.Text.Cut

/-!
# Settings

Where the hub is and how it is asked. Each setting has a default, and a settings
document states those that differ.
-/

namespace ServingPreset

/-- Where the hub is and how requests to it are made. -/
structure Settings where
  baseUrl : String := "https://huggingface.co"
  /-- The environment variable that holds the token when none is given. -/
  tokenVariable : String := "HF_TOKEN"
  /-- The number of seconds after which a request is given up. -/
  timeoutSeconds : UInt64 := 30
  userAgent : String := "presetgen/0.2.0"
deriving DecidableEq, Repr, Inhabited

namespace Settings

/-- The base URL without slashes at its end. -/
def endpoint (settings : Settings) : String :=
  String.ofList (Text.dropTrailing '/' settings.baseUrl.toList)

/-- The fields of a settings document, in declaration order. -/
def fields : List (Json.Field Settings) :=
  [.storing "endpoint" Json.text fun value settings => { settings with baseUrl := value },
    .storing "token_env" Json.text fun value settings => { settings with tokenVariable := value },
    .storing "request_timeout_secs" Json.unsigned fun value settings =>
      { settings with timeoutSeconds := value },
    .storing "user_agent" Json.text fun value settings => { settings with userAgent := value }]

/-- Read a settings document. -/
def ofBytes (bytes : Json.Bytes) : Except Json.Defect Settings :=
  Json.document (Json.record fields {}) bytes

/-- The settings document that states every setting. -/
def toJson (settings : Settings) : Json.Value :=
  .object [("endpoint", .string settings.baseUrl),
    ("token_env", .string settings.tokenVariable),
    ("request_timeout_secs", .ofUnsigned settings.timeoutSeconds),
    ("user_agent", .string settings.userAgent)]

end Settings

end ServingPreset
