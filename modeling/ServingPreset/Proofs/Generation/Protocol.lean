import ServingPreset.Proofs.Generation.Route
import ServingPreset.Proofs.Weights

/-!
# The requests and the problems of a generation

A generation over a hub that answers everything requests the listing, and then at most one
configuration document, which the weight files choose. A problem belongs to the last
request (`Attributed`): it names the URL, and it is a rejection exactly when the status
was one. The second request is made when the listing has weight files, and there is a
preset, or else a fault, when it yields an object.
-/

namespace ServingPreset

def Problem.url? : Problem → Option String
  | authRequired url => some url
  | status url _ => some url
  | transport url _ => some url
  | unreadable url _ => some url
  | _ => none

/-- A problem that is the one of a request for a URL, to which a hub gave a response. -/
structure Attributed (hub : Hub) (url : String) (response : Response) (problem : Problem) :
    Prop where
  named : problem ≠ .noWeightFiles → problem.url? = some url
  rejection : problem.isAuthRejection = true ↔ response.status = 401 ∨ response.status = 403
  anonymous : (∃ url, problem = .authRequired url) ↔
    problem.isAuthRejection = true ∧ hub.tokenAttached = false

namespace Hub

variable {hub : Hub} {url : String} {response : Response}

theorem fileUrl_inj {repository file other : String} :
    hub.fileUrl repository file = hub.fileUrl repository other ↔ file = other := by
  simp [fileUrl]

theorem status_of_fetch {body : Json.Bytes} (answered : hub.respond url = .ok response)
    (fetched : hub.fetch url = .ok body) : response.status = 200 := by
  rw [fetch_eq_ok_iff, answered, Except.ok.injEq] at fetched
  rw [fetched]

theorem exists_success_iff (answered : hub.respond url = .ok response)
    {Holds : Json.Bytes → Prop} :
    (∃ body, hub.respond url = .ok ⟨200, body⟩ ∧ Holds body) ↔
      response.status = 200 ∧ Holds response.body := by
  rcases response with ⟨status, content⟩
  simp only [answered, Except.ok.injEq, Response.mk.injEq]
  constructor
  · rintro ⟨body, ⟨rfl, rfl⟩, holds⟩
    exact ⟨rfl, holds⟩
  · rintro ⟨rfl, holds⟩
    exact ⟨content, ⟨rfl, rfl⟩, holds⟩

end Hub

namespace Attributed

variable {hub : Hub} {url : String} {response : Response} {problem : Problem}

theorem of_fetch (answered : hub.respond url = .ok response)
    (refused : hub.fetch url = .error problem) : Attributed hub url response problem := by
  rw [Hub.fetch_of_respond answered] at refused
  cases rejected : response.isRejected with
  | true =>
      have rejection := Response.isRejected_iff.mp rejected
      rw [Response.accept_of_isRejected rejected, Except.error.injEq] at refused
      subst refused
      cases attached : hub.tokenAttached with
      | false => exact ⟨fun _ => rfl, by simp [Problem.isAuthRejection, rejection],
          by simp [Problem.isAuthRejection, attached]⟩
      | true => exact ⟨fun _ => rfl, by simp [Problem.isAuthRejection, isRejection],
          by simp [attached]⟩
  | false =>
      rw [Response.accept_of_not_isRejected rejected] at refused
      split at refused
      · contradiction
      · cases refused
        have tolerated : isRejection response.status = false := rejected
        exact ⟨fun _ => rfl, by simp [Problem.isAuthRejection, isRejection],
          by simp [Problem.isAuthRejection, tolerated]⟩

/-- A problem of an answer with status 200 is one of its body. -/
theorem of_success (success : response.status = 200)
    (notRejection : problem.isAuthRejection = false)
    (named : problem ≠ .noWeightFiles → problem.url? = some url) :
    Attributed hub url response problem := by
  refine ⟨named, by simp [notRejection, success], ?_⟩
  simp only [notRejection, Bool.false_eq_true, false_and, iff_false]
  rintro ⟨other, rfl⟩
  contradiction

end Attributed

namespace Generation

variable {hub : Hub} {repository : Repository} {weights : Weights} {response : Response}
  {problem : Problem}

theorem attributed_of_fetchWeights
    (answered : hub.respond (hub.treeUrl repository.id) = .ok response)
    (failed : fetchWeights hub repository = .error problem) :
    Attributed hub (hub.treeUrl repository.id) response problem := by
  cases fetched : hub.fetch (hub.treeUrl repository.id) with
  | error refusal =>
      rw [fetchWeights_of_refused fetched] at failed
      cases failed
      exact .of_fetch answered fetched
  | ok body =>
      have success := Hub.status_of_fetch answered fetched
      rw [fetchWeights_of_fetch fetched, readWeights] at failed
      split at failed
      · rw [Weights.eq_noWeightFiles_of_ofListing failed]
        exact .of_success success rfl (absurd rfl)
      · cases failed
        exact .of_success success rfl fun _ => rfl

theorem attributed_of_fetchConfig
    (answered : hub.respond (configUrl hub repository weights) = .ok response)
    (failed : fetchConfig hub repository weights = .error problem) :
    Attributed hub (configUrl hub repository weights) response problem := by
  cases fetched : hub.fetch (configUrl hub repository weights) with
  | error refusal =>
      rw [fetchConfig_of_refused fetched] at failed
      cases failed
      exact .of_fetch answered fetched
  | ok body =>
      have success := Hub.status_of_fetch answered fetched
      rw [fetchConfig_of_fetch fetched] at failed
      rcases ConfigDocument.ofBytes_eq_error_iff.mp failed with ⟨defect, _, rfl⟩
      exact .of_success success rfl fun _ => rfl

/-! ### A hub that answers everything -/

variable {reply : String → Response} {config : ConfigDocument}

theorem fetchWeights_eq_ok_iff_reply (answered : ∀ url, hub.respond url = .ok (reply url)) :
    fetchWeights hub repository = .ok weights ↔
      (reply (hub.treeUrl repository.id)).status = 200 ∧
        ∃ listing, FileRow.listing (reply (hub.treeUrl repository.id)).body = .ok listing ∧
          Weights.ofListing listing = .ok weights := by
  simp only [fetchWeights_eq_ok_iff, exists_and_left]
  exact Hub.exists_success_iff (answered _)

theorem fetchConfig_eq_ok_iff_reply (answered : ∀ url, hub.respond url = .ok (reply url)) :
    fetchConfig hub repository weights = .ok config ↔
      (reply (configUrl hub repository weights)).status = 200 ∧
        Json.document Json.readObject (reply (configUrl hub repository weights)).body =
          .ok config.members := by
  rw [fetchConfig_eq_ok_iff]
  exact Hub.exists_success_iff (answered _)

theorem requests_run (hub : Hub) (repository : Repository) :
    (run hub repository).requests =
      match fetchWeights hub repository with
      | .error _ => [hub.treeUrl repository.id]
      | .ok weights => [hub.treeUrl repository.id, configUrl hub repository weights] := by
  have route := run_route hub repository
  generalize run hub repository = generation at route
  cases route with
  | unweighted problem failed => simp [failed]
  | unconfigured weights problem selected failed => simp [selected]
  | configured weights config selected configured => simp [selected]

/-- The configuration document that is requested behind the listing, if one is. -/
theorem requests_run_eq_pair_iff {file : String} :
    (run hub repository).requests =
        [hub.treeUrl repository.id, hub.fileUrl repository.id file] ↔
      ∃ weights, fetchWeights hub repository = .ok weights ∧
        file = weights.layout.configFile := by
  rw [requests_run]
  cases selected : fetchWeights hub repository with
  | error problem => simp
  | ok weights => simp [configUrl, Hub.fileUrl_inj, eq_comm]

/-- A problem is the one of the last request. -/
theorem attributed_run (answered : ∀ url, hub.respond url = .ok (reply url))
    (failed : (run hub repository).result = .error (.problem problem)) :
    ∃ last, (run hub repository).requests.getLast? = some last ∧
      Attributed hub last (reply last) problem := by
  rw [requests_run]
  have route := run_route hub repository
  generalize run hub repository = generation at route failed
  cases route with
  | unweighted problem unweighted =>
      cases failed
      rw [unweighted]
      exact ⟨_, rfl, attributed_of_fetchWeights (answered _) unweighted⟩
  | unconfigured weights problem selected unconfigured =>
      cases failed
      rw [selected]
      exact ⟨_, rfl, attributed_of_fetchConfig (answered _) unconfigured⟩
  | configured weights config selected configured =>
      cases made : assemble hub repository weights config <;>
        simp [made, Except.mapError] at failed

/-- Without a fault, there is a preset exactly when both documents were had. -/
theorem run_isOk_iff (noFault : ∀ fault, (run hub repository).result ≠ .error (.fault fault)) :
    (∃ preset, (run hub repository).result = .ok preset) ↔
      ∃ weights config, fetchWeights hub repository = .ok weights ∧
        fetchConfig hub repository weights = .ok config := by
  constructor
  · rintro ⟨preset, generated⟩
    rcases run_eq_ok_iff.mp generated with ⟨weights, config, selected, configured, _⟩
    exact ⟨weights, config, selected, configured⟩
  · rintro ⟨weights, config, selected, configured⟩
    rw [run_of_configured selected configured] at noFault ⊢
    cases made : assemble hub repository weights config with
    | error fault => exact absurd (by rw [made]; rfl) (noFault fault)
    | ok preset => exact ⟨preset, rfl⟩

/--
A generation requests the listing, and the configuration document of the layout when the
listing was had and has weight files; there is a preset when this document is an object.
A problem is the one of the last request. Faults are excluded for the preset only.
-/
theorem run_protocol (hub : Hub) (repository : Repository) (reply : String → Response)
    (answered : ∀ url, hub.respond url = .ok (reply url)) :
    let treeUrl := hub.treeUrl repository.id
    let fileUrl := hub.fileUrl repository.id
    let generation := run hub repository
    (generation.requests = [treeUrl] ∨
      ∃ file, generation.requests = [treeUrl, fileUrl file]) ∧
    (∀ file, generation.requests = [treeUrl, fileUrl file] ↔
      (reply treeUrl).status = 200 ∧
        ∃ listing weights, FileRow.listing (reply treeUrl).body = .ok listing ∧
          Weights.ofListing listing = .ok weights ∧
          file =
            if ∃ row ∈ listing,
                "consolidated".toList <+: row.name ∧ ".safetensors".toList <:+ row.name
            then "params.json" else "config.json") ∧
    ((∀ fault, generation.result ≠ .error (.fault fault)) →
      ((∃ preset, generation.result = .ok preset) ↔
        ∃ file, generation.requests = [treeUrl, fileUrl file] ∧
          (reply (fileUrl file)).status = 200 ∧
          ∃ members, Json.document Json.readObject (reply (fileUrl file)).body = .ok members)) ∧
    (∀ problem, generation.result = .error (.problem problem) →
      ∃ last, generation.requests.getLast? = some last ∧
        (problem ≠ .noWeightFiles → problem.url? = some last) ∧
        (problem.isAuthRejection = true ↔
          (reply last).status = 401 ∨ (reply last).status = 403) ∧
        ((∃ url, problem = .authRequired url) ↔
          problem.isAuthRejection = true ∧ hub.tokenAttached = false)) := by
  intro treeUrl fileUrl generation
  refine ⟨?_, ?_, ?_, ?_⟩
  · rw [show generation.requests = _ from requests_run hub repository]
    split
    · exact .inl rfl
    · exact .inr ⟨_, rfl⟩
  · intro file
    simp only [generation, treeUrl, fileUrl, requests_run_eq_pair_iff,
      fetchWeights_eq_ok_iff_reply answered]
    constructor
    · rintro ⟨weights, ⟨delivered, listing, read, selected⟩, rfl⟩
      exact ⟨delivered, listing, weights, read, selected, Weights.configFile_of_ofListing selected⟩
    · rintro ⟨delivered, listing, weights, read, selected, rfl⟩
      exact ⟨weights, ⟨delivered, listing, read, selected⟩,
        (Weights.configFile_of_ofListing selected).symm⟩
  · intro noFault
    rw [run_isOk_iff noFault]
    simp only [generation, treeUrl, fileUrl, requests_run_eq_pair_iff,
      fetchConfig_eq_ok_iff_reply answered]
    constructor
    · rintro ⟨weights, config, selected, delivered, read⟩
      exact ⟨_, ⟨weights, selected, rfl⟩, delivered, config.members, read⟩
    · rintro ⟨_, ⟨weights, selected, rfl⟩, delivered, members, read⟩
      exact ⟨weights, ⟨members⟩, selected, delivered, read⟩
  · intro problem failed
    rcases attributed_run answered failed with ⟨last, isLast, attributed⟩
    exact ⟨last, isLast, attributed.named, attributed.rejection, attributed.anonymous⟩

open SmallHub in
/-- A preset of a consolidated checkpoint, and a configuration that is refused with a token. -/
theorem run_protocol_gated :
    (run tokenHub ⟨"org/Qwen3-Open"⟩).requests =
        ["https://huggingface.co/api/models/org/Qwen3-Open/tree/main?recursive=true",
          "https://huggingface.co/org/Qwen3-Open/resolve/main/params.json"] ∧
      (∃ preset, (run tokenHub ⟨"org/Qwen3-Open"⟩).result = .ok preset) ∧
      ∃ problem, (run tokenHub ⟨"org/gated"⟩).result = .error (.problem problem) ∧
        problem.isAuthRejection = true ∧ ¬∃ url, problem = .authRequired url := by
  have answered : ∀ url, tokenHub.respond url = .ok (reply url) := fun _ => rfl
  rcases run_protocol tokenHub ⟨"org/Qwen3-Open"⟩ reply answered with ⟨_, second, preset, _⟩
  rcases run_protocol tokenHub ⟨"org/gated"⟩ reply answered with ⟨_, _, _, problems⟩
  have listed : reply (tokenHub.treeUrl "org/Qwen3-Open") = ⟨200, mixedListing⟩ := by
    decide +kernel
  have requests := (second "params.json").mpr (by
    rw [listed]
    exact ⟨rfl, mixedRows, _, listing_mixedListing, rfl, by decide +kernel⟩)
  have configured : reply (tokenHub.fileUrl "org/Qwen3-Open" "params.json") =
      ⟨200, latentConfig⟩ := by
    decide +kernel
  have noFault : ∀ fault, (run tokenHub ⟨"org/Qwen3-Open"⟩).result ≠ .error (.fault fault) := by
    have generated : (run tokenHub ⟨"org/Qwen3-Open"⟩).result.isOk = true := by decide +kernel
    intro fault faulted
    rw [faulted] at generated
    contradiction
  have refused : (run tokenHub ⟨"org/gated"⟩).result = .error (.problem
      (.status "https://huggingface.co/org/gated/resolve/main/config.json" 403)) := by
    decide +kernel
  refine ⟨requests, (preset noFault).mpr ⟨_, requests, ?_⟩, _, refused, ?_⟩
  · rw [configured]
    exact ⟨rfl, latentMembers, document_latentConfig⟩
  · rcases problems _ refused with ⟨last, isLast, _, rejection, anonymous⟩
    exact ⟨rfl, fun asked => absurd (anonymous.mp asked).2 (by decide)⟩

end Generation

end ServingPreset
