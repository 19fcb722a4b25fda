import ServingPreset.Launch
import ServingPreset.OutputParser
import ServingPreset.Quantity
import ServingPreset.Remote.Hub
import ServingPreset.Repository
import ServingPreset.Weights

/-!
# Generating presets

A preset is generated from two documents of a repository: the listing, which decides
the weight files and the configuration document, and that document. Any problem ends
the generation; there is no partial preset. What is sent for it is whatever the access
to the hub sends for the two documents, in the order in which they are asked for.
-/

namespace ServingPreset

/-- The outcome of a generation. -/
structure Generation where
  /-- The preset, or what kept it from being produced. -/
  result : Except Stop Preset
  /-- The requests that were made, by their URLs, in order. -/
  requests : List String
deriving Inhabited

namespace Generation

/-- The kind of model that generated presets are for. -/
def modelType : String := "tfs"

/-- The address under which the hub shows a repository. -/
def versionOf (hub : Hub) (repository : Repository) : String :=
  hub.endpoint ++ "/" ++ repository.id

/-- The weight files of the listing that a body states. -/
def readWeights (body : Json.Bytes) (url : String) : Except Problem Weights :=
  match FileRow.listing body with
  | .ok listing => Weights.ofListing listing
  | .error defect => .error (.unreadable url defect)

section Requests

variable {Sent : Type} (access : Access Sent) (repository : Repository)

/-- Request the listing of a repository and select its weight files. -/
def requestWeights : Attempt Sent Problem Weights := do
  let url := access.hub.treeUrl repository.id
  let body ← access.fetch url
  .ofExcept (readWeights body url)

/-- Request the configuration document that belongs to the weight files. -/
def requestConfig (weights : Weights) : Attempt Sent Problem ConfigDocument := do
  let url := access.hub.fileUrl repository.id weights.layout.configFile
  let body ← access.fetch url
  .ofExcept (ConfigDocument.ofBytes body url)

end Requests

/-- The facts that the name and the configuration of a model give. -/
def describe (hub : Hub) (repository : Repository) (config : ConfigDocument) : ModelCard :=
  let name := repository.shortName
  { name := name
    architectures := config.architectures name
    modelType := modelType
    version := versionOf hub repository
    downloadAtRuntime := true
    tokenLimit := unsignedOrZero config.tokenLimit
    reasoningParser := (OutputParser.reasoning name).getD ""
    toolCallParser := (OutputParser.toolCall name).getD "" }

/-- The preset that the documents of a repository amount to. -/
def assemble (hub : Hub) (repository : Repository) (weights : Weights)
    (config : ConfigDocument) : Except Fault Preset := do
  let described := describe hub repository config
  let size := Quantity.ofBytes (← weights.totalBytes)
  let disk ← Quantity.withReserve size
  let cache ← (AttentionShape.ofConfig config).footprint
  let card := { described with
    modelFileSize := size
    diskRequirement := disk
    bytesPerToken := cache.bytesPerToken }
  return {
    card := card
    attention := cache.kind
    launch := {
      baseCommand := Launch.command
      modelName := card.name
      flags := (Launch.servingFlags card).insertAll weights.layout.flags
      disallowLora := false
      leaderCommand := Launch.leaderCommand
      workerCommand := Launch.workerCommand } }

/-- Request the documents of a repository and make its preset of them. -/
def produce {Sent : Type} (access : Access Sent) (repository : Repository) :
    Attempt Sent Stop Preset := do
  let weights ← (requestWeights access repository).mapError Stop.problem
  let config ← (requestConfig access repository weights).mapError Stop.problem
  .ofExcept ((assemble access.hub repository weights config).mapError Stop.fault)

/-- Generate the preset of a repository. -/
def run (hub : Hub) (repository : Repository) : Generation :=
  let attempt := produce hub.access repository
  ⟨attempt.result, attempt.sent⟩

/-- The weight files of a repository, as the hub lists them. -/
def fetchWeights (hub : Hub) (repository : Repository) : Except Problem Weights :=
  (requestWeights hub.access repository).result

/-- The configuration document that belongs to the weight files, as the hub gives it. -/
def fetchConfig (hub : Hub) (repository : Repository) (weights : Weights) :
    Except Problem ConfigDocument :=
  (requestConfig hub.access repository weights).result

/-- Generate the preset of the repository that a text names. -/
def ofText (hub : Hub) (text : String) : Generation :=
  match Repository.ofText text with
  | .ok repository => run hub repository
  | .error problem => ⟨.error (.problem problem), []⟩

end Generation

end ServingPreset
