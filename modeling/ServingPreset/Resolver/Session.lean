import ServingPreset.Resolver.Basic

/-!
# Sessions

Runs of a resolver over time: models are registered by hand, the hub changes its
responses, and names are resolved. A report says what a step gave and which names are
registered after it.
-/

namespace ServingPreset

/-- The source that generates presets from the responses of a hub, whatever the token. -/
def PresetSource.ofResponses (endpoint : String) (tokenAttached : Bool)
    (responses : NameMap Response) : PresetSource :=
  fun repository _ =>
    Generation.ofText (Hub.ofResponses endpoint tokenAttached responses) repository

/-- What a session keeps between its steps. -/
@[ext]
structure SessionState where
  index : ModelIndex
  responses : NameMap Response

/-- A step of a session. -/
inductive SessionStep where
  | register (name : String) (model : ServedModel)
  /-- Let the hub answer a URL from now on. -/
  | respond (url : String) (response : Response)
  | resolve (name secret zone : String)

/-- What a step gave. -/
structure SessionReport where
  /-- The model of a resolution, nothing for other steps, or what ended the step. -/
  result : Except Stop (Option ServedModel)
  tokens : List String
  requests : List String
  /-- The registered names after the step. -/
  names : List String

namespace SessionState

/-- The state at the beginning: no model is registered. -/
def initial (responses : NameMap Response) : SessionState :=
  ⟨ModelIndex.empty, responses⟩

/-- Take one step. The source generates presets from the responses of the hub. -/
def step (vault : SecretVault) (source : NameMap Response → PresetSource)
    (state : SessionState) : SessionStep → SessionState × SessionReport
  | .register name model =>
      match state.index.register name model with
      | .ok grown => ({ state with index := grown }, ⟨.ok none, [], [], grown.names⟩)
      | .error fault => (state, ⟨.error (.fault fault), [], [], state.index.names⟩)
  | .respond url response =>
      ({ state with responses := state.responses.insert url response },
        ⟨.ok none, [], [], state.index.names⟩)
  | .resolve name secret zone =>
      let resolution :=
        Resolver.resolve state.index vault (source state.responses) name secret zone
      ({ state with index := resolution.index },
        ⟨resolution.result.map some, resolution.tokens, resolution.requests,
          resolution.index.names⟩)

/-- Take steps one after the other and report each. -/
def run (vault : SecretVault) (source : NameMap Response → PresetSource) :
    SessionState → List SessionStep → SessionState × List SessionReport
  | state, [] => (state, [])
  | state, next :: later =>
      let (reached, report) := step vault source state next
      let (final, reports) := run vault source reached later
      (final, report :: reports)

end SessionState

end ServingPreset
