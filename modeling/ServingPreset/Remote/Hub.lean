import ServingPreset.NameMap
import ServingPreset.Problem
import ServingPreset.Remote.Attempt

/-!
# Hubs

A hub answers requests for documents by their URL. Whoever has access to one asks for a URL
and keeps what was sent for it. `Access.fetch` accepts a response with status 200 and names
every other outcome as a problem; whether a token is attached decides only how a rejection
is named.
-/

namespace ServingPreset

/-- The answer to a request. -/
structure Response where
  status : Nat
  body : Json.Bytes
deriving DecidableEq, Repr, Inhabited

namespace Response

/-- Whether the response says that credentials are missing or not accepted. -/
def isRejected (response : Response) : Bool :=
  isRejection response.status

/--
The body of a success. A rejection of a request without a token asks for one; any
other status, and the rejection of a token, is reported as it is.
-/
def accept (response : Response) (url : String) (tokenAttached : Bool) :
    Except Problem Json.Bytes :=
  if response.isRejected && !tokenAttached then .error (.authRequired url)
  else if response.status ≠ 200 then .error (.status url response.status)
  else .ok response.body

end Response

/-- Read access to a model hub. -/
structure Hub where
  /-- The base URL, without slashes at its end. -/
  endpoint : String
  tokenAttached : Bool
  /-- The answer to a request for a URL, or why there is none. -/
  respond : String → Except Undelivered Response

namespace Hub

/-- The address of the listing of a repository, directories included. -/
def treeUrl (hub : Hub) (repository : String) : String :=
  hub.endpoint ++ "/api/models/" ++ repository ++ "/tree/main?recursive=true"

/-- The address of a file of a repository. -/
def fileUrl (hub : Hub) (repository file : String) : String :=
  hub.endpoint ++ "/" ++ repository ++ "/resolve/main/" ++ file

/-- The hub that gives fixed responses and knows no other address. -/
def ofResponses (endpoint : String) (tokenAttached : Bool) (responses : NameMap Response) :
    Hub where
  endpoint := endpoint
  tokenAttached := tokenAttached
  respond url := .ok ((responses.get? url).getD ⟨404, []⟩)

end Hub

/-- Read access to a hub, by which something is sent for every answer. -/
structure Access (Sent : Type) where
  /-- The base URL, without slashes at its end. -/
  endpoint : String
  tokenAttached : Bool
  /-- Ask for a URL. -/
  get : String → Attempt Sent Undelivered Response

namespace Access

variable {Sent : Type}

/-- The hub as it is seen through the access. -/
def hub (access : Access Sent) : Hub where
  endpoint := access.endpoint
  tokenAttached := access.tokenAttached
  respond url := (access.get url).result

/-- Request a document and require a success. -/
def fetch (access : Access Sent) (url : String) : Attempt Sent Problem Json.Bytes := do
  let response ← (access.get url).mapError (.transport url)
  .ofExcept (response.accept url access.tokenAttached)

end Access

namespace Hub

/-- The access of someone who hands URLs to the hub itself. -/
def access (hub : Hub) : Access String where
  endpoint := hub.endpoint
  tokenAttached := hub.tokenAttached
  get url := ⟨hub.respond url, [url]⟩

/-- The document that a request for a URL gives. -/
def fetch (hub : Hub) (url : String) : Except Problem Json.Bytes :=
  (hub.access.fetch url).result

end Hub

end ServingPreset
