import ServingPreset.Generation
import ServingPreset.Remote.Url
import ServingPreset.Settings

/-!
# The client of a hub

A client makes requests over a network on behalf of a hub. It attaches a token that
was given, or else the one of the environment, and names itself. A request goes to the
address that the client understands a URL as, which need not be spelled like the URL. The
network is a function from requests to responses, and nobody may answer.
-/

namespace ServingPreset

/-- A request for a document, as it is given to a network. -/
structure Request where
  /-- The address that the client goes to. -/
  url : String
  /-- The header that carries the token. -/
  authorization : Option String
  userAgent : String
deriving DecidableEq, Repr, Inhabited

/-- A network: the response to a request, or none where nobody answers. -/
abbrev Network := Request → Option Response

/-- A request that was given to a network, with the response if somebody answered. -/
structure Exchange where
  request : Request
  response : Option Response
deriving DecidableEq, Repr, Inhabited

namespace Network

/-- The network on which nobody answers. -/
def unreachable : Network := fun _ => none

/-- Give a request to the network. -/
def exchange (network : Network) (request : Request) : Exchange :=
  ⟨request, network request⟩

end Network

/-- The token to use: one that is given explicitly, else the one of the environment. -/
def chooseToken (explicit : String) (environment : Option String) : Option String :=
  if explicit.isEmpty then environment.filter (fun token => !token.isEmpty) else some explicit

/-- Whether a text can stand in a header: it has no control character but tabs. -/
def isHeaderText (text : String) : Bool :=
  text.toList.all fun char => char = '\t' || (0x20 ≤ char.toNat && char.toNat ≠ 0x7F)

/-- A client of a hub. -/
structure Client where
  endpoint : String
  token : Option String
  userAgent : String
deriving DecidableEq, Repr, Inhabited

namespace Client

/-- Set up a client; the name that it gives itself has to fit a header. -/
def ofSettings (settings : Settings) (explicit : String) (environment : Option String) :
    Except Problem Client :=
  if isHeaderText settings.userAgent then
    .ok ⟨settings.endpoint, chooseToken explicit environment, settings.userAgent⟩
  else .error .client

/-- The header that carries a token. -/
def authorization (token : String) : String :=
  "Bearer " ++ token

/-- The request that the client makes to an address. -/
def request (client : Client) (address : Url) : Request :=
  ⟨address.target, client.token.map authorization, client.userAgent⟩

/-- Whether the token of the client, if any, can stand in a header. -/
def tokenFits (client : Client) : Bool :=
  (client.token.map isHeaderText).getD true

/--
Ask for a URL over a network. A URL that is no address for requests, or a token that fits no
header, fails before anything is sent.
-/
def send (client : Client) (network : Network) (url : String) :
    Attempt Exchange Undelivered Response :=
  match Url.ofText? url with
  | none => .ofExcept (.error .malformedUrl)
  | some address =>
      if !address.hasHost then .ofExcept (.error (.foreignScheme address.shown))
      else if !client.tokenFits then .ofExcept (.error .malformedHeader)
      else if !address.isRequestable then .ofExcept (.error (.foreignScheme address.shown))
      else
        let exchange := network.exchange (client.request address)
        match exchange.response with
        | some response => ⟨.ok response, [exchange]⟩
        | none => ⟨.error (.noAnswer address.shown), [exchange]⟩

/-- Access to the hub of the client over a network. -/
def access (client : Client) (network : Network) : Access Exchange where
  endpoint := client.endpoint
  tokenAttached := client.token.isSome
  get := client.send network

/-- The hub as the client sees it over a network. -/
def hub (client : Client) (network : Network) : Hub :=
  (client.access network).hub

end Client

/-- The outcome of a generation over a network. -/
structure RemoteGeneration where
  result : Except Stop Preset
  /-- What was given to the network, in order, with what came back. -/
  exchanges : List Exchange
deriving Inhabited

namespace RemoteGeneration

/--
Generate the preset of the repository that a text names. A blank text is turned away
first, and no client is set up before the repository is known.
-/
def run (settings : Settings) (network : Network) (environment : Option String)
    (repositoryText explicit : String) : RemoteGeneration :=
  let stopped (problem : Problem) : RemoteGeneration := ⟨.error (.problem problem), []⟩
  if Text.blank repositoryText then stopped .missingRepository
  else
    match Repository.ofText repositoryText with
    | .error problem => stopped problem
    | .ok repository =>
        match Client.ofSettings settings explicit environment with
        | .error problem => stopped problem
        | .ok client =>
            let attempt := Generation.produce (client.access network) repository
            ⟨attempt.result, attempt.sent⟩

/-- The requests that were answered. -/
def requests (remote : RemoteGeneration) : List Request :=
  (remote.exchanges.filter (·.response.isSome)).map (·.request)

/-- The generation as a resolver sees it: of its requests, the addresses of those answered. -/
def toGeneration (remote : RemoteGeneration) : Generation :=
  ⟨remote.result, remote.requests.map Request.url⟩

end RemoteGeneration

end ServingPreset
