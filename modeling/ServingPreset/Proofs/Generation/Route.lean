import Mathlib.Control.Monad.Basic
import ServingPreset.Generation
import ServingPreset.Proofs.Remote.Attempt

/-!
# Routes of a generation

A generation goes one of three ways: it ends before the weight files are known, it ends
before the configuration is known, or it has both and assembles a preset. `Route` lists
them with the outcome on each, and `run_route` says that every generation is on the list.
Only the last route can end in a fault.

A document is had exactly when the hub answers its URL with status 200 and a body that
can be read. Nothing is sent but the two requests for the documents, so any other access to
a hub generates what the hub itself does and sends what carries these (`produce_eq_carry`).
-/

namespace ServingPreset

namespace Response

variable {response : Response} {url : String} {tokenAttached : Bool}

theorem isRejected_iff :
    response.isRejected = true ↔ response.status = 401 ∨ response.status = 403 := by
  simp [isRejected, isRejection]

theorem status_ne_of_isRejected (rejected : response.isRejected = true) :
    response.status ≠ 200 := by
  have codes := isRejected_iff.mp rejected
  omega

theorem accept_of_isRejected (rejected : response.isRejected = true) :
    response.accept url tokenAttached =
      .error (if tokenAttached then .status url response.status else .authRequired url) := by
  cases tokenAttached <;> simp [accept, rejected, status_ne_of_isRejected rejected]

theorem accept_of_not_isRejected (tolerated : response.isRejected = false) :
    response.accept url tokenAttached =
      if response.status = 200 then .ok response.body
      else .error (.status url response.status) := by
  simp [accept, tolerated]

theorem accept_eq_ok_iff {body : Json.Bytes} :
    response.accept url tokenAttached = .ok body ↔ response = ⟨200, body⟩ := by
  cases rejected : response.isRejected with
  | true =>
      rw [accept_of_isRejected rejected]
      refine iff_of_false (by simp) ?_
      rintro rfl
      contradiction
  | false =>
      rcases response with ⟨status, content⟩
      rw [accept_of_not_isRejected rejected]
      by_cases success : status = 200 <;> simp [success]

end Response

namespace Hub

variable {hub : Hub} {url : String} {response : Response} {body : Json.Bytes}

theorem fetch_of_respond (answered : hub.respond url = .ok response) :
    hub.fetch url = response.accept url hub.tokenAttached := by
  simp [fetch, Access.fetch, access, answered, Except.mapError]

theorem fetch_of_undelivered {cause : Undelivered} (undelivered : hub.respond url = .error cause) :
    hub.fetch url = .error (.transport url cause) := by
  simp [fetch, Access.fetch, access, undelivered, Except.mapError]

theorem fetch_eq_ok_iff : hub.fetch url = .ok body ↔ hub.respond url = .ok ⟨200, body⟩ := by
  cases answered : hub.respond url with
  | error cause => simp [fetch_of_undelivered answered]
  | ok response => rw [fetch_of_respond answered, Response.accept_eq_ok_iff, Except.ok.injEq]

end Hub

namespace ConfigDocument

theorem ofBytes_eq_ok_iff {bytes : Json.Bytes} {url : String} {config : ConfigDocument} :
    ofBytes bytes url = .ok config ↔
      Json.document Json.readObject bytes = .ok config.members := by
  rcases config with ⟨members⟩
  cases read : Json.document Json.readObject bytes <;> simp [ofBytes, read]

theorem ofBytes_eq_error_iff {bytes : Json.Bytes} {url : String} {problem : Problem} :
    ofBytes bytes url = .error problem ↔
      ∃ defect, Json.document Json.readObject bytes = .error defect ∧
        problem = .unreadable url defect := by
  cases read : Json.document Json.readObject bytes <;> simp [ofBytes, read, eq_comm]

end ConfigDocument

namespace Generation

variable {hub : Hub} {repository : Repository} {weights : Weights} {config : ConfigDocument}
  {preset : Preset} {problem : Problem}

/-- The address of the configuration document that belongs to the weight files. -/
def configUrl (hub : Hub) (repository : Repository) (weights : Weights) : String :=
  hub.fileUrl repository.id weights.layout.configFile

/-! ### The two documents -/

theorem fetchWeights_eq_bind (hub : Hub) (repository : Repository) :
    fetchWeights hub repository = hub.fetch (hub.treeUrl repository.id) >>= fun body =>
      readWeights body (hub.treeUrl repository.id) := by
  simp only [fetchWeights, requestWeights, Hub.hub_access, Attempt.result_bind,
    Attempt.result_ofExcept, Hub.fetch]

theorem fetchConfig_eq_bind (hub : Hub) (repository : Repository) (weights : Weights) :
    fetchConfig hub repository weights =
      hub.fetch (configUrl hub repository weights) >>= fun body =>
        ConfigDocument.ofBytes body (configUrl hub repository weights) := by
  simp only [fetchConfig, requestConfig, Hub.hub_access, Attempt.result_bind,
    Attempt.result_ofExcept, Hub.fetch, configUrl]

theorem readWeights_eq_ok_iff {body : Json.Bytes} {url : String} :
    readWeights body url = .ok weights ↔
      ∃ listing, FileRow.listing body = .ok listing ∧ Weights.ofListing listing = .ok weights := by
  cases read : FileRow.listing body <;> simp [readWeights, read]

theorem fetchWeights_of_fetch {body : Json.Bytes}
    (fetched : hub.fetch (hub.treeUrl repository.id) = .ok body) :
    fetchWeights hub repository = readWeights body (hub.treeUrl repository.id) := by
  rw [fetchWeights_eq_bind, fetched, ok_bind]

theorem fetchWeights_of_refused (refused : hub.fetch (hub.treeUrl repository.id) = .error problem) :
    fetchWeights hub repository = .error problem := by
  rw [fetchWeights_eq_bind, refused, error_bind]

theorem fetchConfig_of_fetch {body : Json.Bytes}
    (fetched : hub.fetch (configUrl hub repository weights) = .ok body) :
    fetchConfig hub repository weights =
      ConfigDocument.ofBytes body (configUrl hub repository weights) := by
  rw [fetchConfig_eq_bind, fetched, ok_bind]

theorem fetchConfig_of_refused
    (refused : hub.fetch (configUrl hub repository weights) = .error problem) :
    fetchConfig hub repository weights = .error problem := by
  rw [fetchConfig_eq_bind, refused, error_bind]

theorem fetchWeights_eq_ok_iff :
    fetchWeights hub repository = .ok weights ↔
      ∃ body listing, hub.respond (hub.treeUrl repository.id) = .ok ⟨200, body⟩ ∧
        FileRow.listing body = .ok listing ∧ Weights.ofListing listing = .ok weights := by
  cases fetched : hub.fetch (hub.treeUrl repository.id) with
  | error problem =>
      rw [fetchWeights_of_refused fetched]
      simp only [reduceCtorEq, false_iff, not_exists, not_and]
      intro body listing answered
      rw [Hub.fetch_eq_ok_iff.mpr answered] at fetched
      contradiction
  | ok body =>
      have answered := Hub.fetch_eq_ok_iff.mp fetched
      rw [fetchWeights_of_fetch fetched, readWeights_eq_ok_iff]
      simp [answered]

theorem fetchConfig_eq_ok_iff :
    fetchConfig hub repository weights = .ok config ↔
      ∃ body, hub.respond (configUrl hub repository weights) = .ok ⟨200, body⟩ ∧
        Json.document Json.readObject body = .ok config.members := by
  cases fetched : hub.fetch (configUrl hub repository weights) with
  | error problem =>
      rw [fetchConfig_of_refused fetched]
      simp only [reduceCtorEq, false_iff, not_exists, not_and]
      intro body answered
      rw [Hub.fetch_eq_ok_iff.mpr answered] at fetched
      contradiction
  | ok body =>
      have answered := Hub.fetch_eq_ok_iff.mp fetched
      rw [fetchConfig_of_fetch fetched, ConfigDocument.ofBytes_eq_ok_iff]
      simp [answered]

/-! ### What is sent -/

section Sent

variable {Sent : Type} (access : Access Sent) (repository : Repository)

theorem sent_requestWeights : (requestWeights access repository).sent =
    access.carriers (access.hub.treeUrl repository.id) := by
  rw [← access.sent_fetch]
  exact Attempt.sent_bind_of_silent fun _ => rfl

theorem sent_requestConfig (weights : Weights) : (requestConfig access repository weights).sent =
    access.carriers (configUrl access.hub repository weights) := by
  rw [← access.sent_fetch]
  exact Attempt.sent_bind_of_silent fun _ => rfl

end Sent

/-! ### The whole generation -/

theorem run_of_unweighted (failed : fetchWeights hub repository = .error problem) :
    run hub repository = ⟨.error (.problem problem), [hub.treeUrl repository.id]⟩ := by
  have stopped : ((requestWeights hub.access repository).mapError Stop.problem).result =
      .error (.problem problem) := congrArg (Except.mapError Stop.problem) failed
  rw [run, produce, Attempt.bind_of_error stopped, Attempt.sent_mapError, sent_requestWeights]
  rfl

/-- With the weight files at hand, the configuration decides what is made. -/
theorem run_of_weighted (selected : fetchWeights hub repository = .ok weights) :
    run hub repository =
      ⟨((fetchConfig hub repository weights).mapError Stop.problem).bind fun config =>
          (assemble hub repository weights config).mapError Stop.fault,
        [hub.treeUrl repository.id, configUrl hub repository weights]⟩ := by
  have had : ((requestWeights hub.access repository).mapError Stop.problem).result =
      .ok weights := congrArg (Except.mapError Stop.problem) selected
  rw [run, produce, Attempt.bind_of_ok had, Attempt.sent_mapError, sent_requestWeights,
    Attempt.sent_bind_of_silent fun _ => rfl, Attempt.sent_mapError, sent_requestConfig,
    Attempt.result_bind]
  rfl

theorem run_of_unconfigured (selected : fetchWeights hub repository = .ok weights)
    (failed : fetchConfig hub repository weights = .error problem) :
    run hub repository =
      ⟨.error (.problem problem),
        [hub.treeUrl repository.id, configUrl hub repository weights]⟩ := by
  rw [run_of_weighted selected, failed]
  rfl

theorem run_of_configured (selected : fetchWeights hub repository = .ok weights)
    (configured : fetchConfig hub repository weights = .ok config) :
    run hub repository =
      ⟨(assemble hub repository weights config).mapError Stop.fault,
        [hub.treeUrl repository.id, configUrl hub repository weights]⟩ := by
  rw [run_of_weighted selected, configured]
  rfl

/-- The ways in which a generation can go, with the outcome on each. -/
inductive Route (hub : Hub) (repository : Repository) : Generation → Prop where
  | unweighted (problem : Problem) (failed : fetchWeights hub repository = .error problem) :
      Route hub repository ⟨.error (.problem problem), [hub.treeUrl repository.id]⟩
  | unconfigured (weights : Weights) (problem : Problem)
      (selected : fetchWeights hub repository = .ok weights)
      (failed : fetchConfig hub repository weights = .error problem) :
      Route hub repository
        ⟨.error (.problem problem),
          [hub.treeUrl repository.id, configUrl hub repository weights]⟩
  | configured (weights : Weights) (config : ConfigDocument)
      (selected : fetchWeights hub repository = .ok weights)
      (configured : fetchConfig hub repository weights = .ok config) :
      Route hub repository
        ⟨(assemble hub repository weights config).mapError Stop.fault,
          [hub.treeUrl repository.id, configUrl hub repository weights]⟩

/-- Every generation goes one of the routes. -/
theorem run_route (hub : Hub) (repository : Repository) :
    Route hub repository (run hub repository) := by
  cases selected : fetchWeights hub repository with
  | error problem =>
      rw [run_of_unweighted selected]
      exact .unweighted problem selected
  | ok weights =>
      cases configured : fetchConfig hub repository weights with
      | error problem =>
          rw [run_of_unconfigured selected configured]
          exact .unconfigured weights problem selected configured
      | ok config =>
          rw [run_of_configured selected configured]
          exact .configured weights config selected configured

/-- What an assembly ends with comes from two documents that were read. -/
theorem run_eq_mapError_iff (outcome : Except Fault Preset) :
    (run hub repository).result = outcome.mapError Stop.fault ↔
      ∃ weights config, fetchWeights hub repository = .ok weights ∧
        fetchConfig hub repository weights = .ok config ∧
        assemble hub repository weights config = outcome := by
  have route := run_route hub repository
  generalize run hub repository = generation at route
  cases route with
  | unweighted problem failed => cases outcome <;> simp [failed, Except.mapError]
  | unconfigured weights problem selected failed =>
      cases outcome <;> simp [selected, failed, Except.mapError]
  | configured weights config selected configured =>
      cases made : assemble hub repository weights config <;> cases outcome <;>
        simp [selected, configured, made, Except.mapError]

/-- A preset comes from two documents that were read and fit together. -/
theorem run_eq_ok_iff :
    (run hub repository).result = .ok preset ↔
      ∃ weights config, fetchWeights hub repository = .ok weights ∧
        fetchConfig hub repository weights = .ok config ∧
        assemble hub repository weights config = .ok preset :=
  run_eq_mapError_iff (.ok preset)

theorem run_eq_fault_iff {fault : Fault} :
    (run hub repository).result = .error (.fault fault) ↔
      ∃ weights config, fetchWeights hub repository = .ok weights ∧
        fetchConfig hub repository weights = .ok config ∧
        assemble hub repository weights config = .error fault :=
  run_eq_mapError_iff (.error fault)

end Generation

/-! ### A small hub -/

namespace SmallHub

def document (text : String) : Json.Bytes :=
  text.toUTF8.toList

/-- A listing with two kinds of checkpoints. -/
def mixedListing : Json.Bytes :=
  document "[[\"consolidated.safetensors\",1073741825],[\"model.bin\",7]]"

def mixedRows : List FileRow :=
  [⟨"consolidated.safetensors", 1073741825, ""⟩, ⟨"model.bin", 7, ""⟩]

theorem listing_mixedListing : FileRow.listing mixedListing = .ok mixedRows := by
  decide +kernel

/-- The configuration document of a model with latent attention. -/
def latentConfig : Json.Bytes :=
  document "\x7b\"kv_lora_rank\":512,\"n_layers\":61\x7d"

def latentMembers : List (String × Json.Value) :=
  [("kv_lora_rank", .number (.integer 512)), ("n_layers", .number (.integer 61))]

theorem document_latentConfig :
    Json.document Json.readObject latentConfig = .ok latentMembers := by
  with_unfolding_all rfl

/-- An open repository, and one whose configuration is not given out. -/
def reply : String → Response
  | "https://huggingface.co/api/models/org/Qwen3-Open/tree/main?recursive=true" =>
      ⟨200, mixedListing⟩
  | "https://huggingface.co/org/Qwen3-Open/resolve/main/params.json" => ⟨200, latentConfig⟩
  | "https://huggingface.co/api/models/org/gated/tree/main?recursive=true" =>
      ⟨200, document "[[\"model.safetensors\",7]]"⟩
  | "https://huggingface.co/org/gated/resolve/main/config.json" => ⟨403, []⟩
  | _ => ⟨404, []⟩

def tokenHub : Hub :=
  ⟨"https://huggingface.co", true, fun url => .ok (reply url)⟩

def tokenWeights : Weights :=
  ⟨.consolidated, [⟨"consolidated.safetensors", 1073741825, ""⟩]⟩

theorem fetchWeights_tokenHub :
    Generation.fetchWeights tokenHub ⟨"org/Qwen3-Open"⟩ = .ok tokenWeights :=
  Generation.fetchWeights_eq_ok_iff.mpr
    ⟨mixedListing, mixedRows, by decide +kernel, listing_mixedListing, by decide +kernel⟩

theorem fetchConfig_tokenHub :
    Generation.fetchConfig tokenHub ⟨"org/Qwen3-Open"⟩ tokenWeights = .ok ⟨latentMembers⟩ :=
  Generation.fetchConfig_eq_ok_iff.mpr ⟨latentConfig, by decide +kernel, document_latentConfig⟩

end SmallHub

end ServingPreset
