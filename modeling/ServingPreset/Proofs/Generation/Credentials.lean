import ServingPreset.Proofs.Generation.Footprint

/-!
# Generations with and without a token

Whether a hub is asked with a token decides how a rejection is named, and nothing else. The
fact is one about a single fetch (`Hub.fetch_matches`); both documents are fetched so, and
generations whose steps match are alike.
-/

namespace ServingPreset

/--
A problem met without a token and the one met with a token in its place: a rejection is
named by its status, anything else is no rejection and stays as it is.
-/
inductive Problem.Counterpart : Problem → Problem → Prop where
  | rejected (url : String) (code : Nat) (rejection : code = 401 ∨ code = 403) :
      Counterpart (.authRequired url) (.status url code)
  | same (problem : Problem) (notRejection : problem.isAuthRejection = false) :
      Counterpart problem problem

theorem Problem.Counterpart.isAuthRejection_eq {first second : Problem}
    (counterpart : first.Counterpart second) :
    first.isAuthRejection = second.isAuthRejection := by
  cases counterpart with
  | rejected url code rejection =>
      simp [isAuthRejection, isRejection, rejection]
  | same problem notRejection => rfl

theorem Response.accept_matches (response : Response) (url : String) :
    Matches Problem.Counterpart Eq (response.accept url false) (response.accept url true) := by
  cases rejected : response.isRejected with
  | true =>
      rw [accept_of_isRejected rejected, accept_of_isRejected rejected]
      exact .failed (.rejected url response.status (isRejected_iff.mp rejected))
  | false =>
      rw [accept_of_not_isRejected rejected, accept_of_not_isRejected rejected]
      split
      · exact .succeeded rfl
      · exact .failed (.same _ rejected)

namespace Hub

def anonymous (hub : Hub) : Hub :=
  { hub with tokenAttached := false }

def identified (hub : Hub) : Hub :=
  { hub with tokenAttached := true }

theorem fetch_matches (hub : Hub) (url : String) :
    Matches Problem.Counterpart Eq (hub.anonymous.fetch url) (hub.identified.fetch url) := by
  have unchanged : hub.anonymous.respond url = hub.identified.respond url := rfl
  cases answered : hub.identified.respond url with
  | error cause =>
      rw [fetch_of_undelivered (unchanged.trans answered), fetch_of_undelivered answered]
      exact .failed (.same _ rfl)
  | ok response =>
      rw [fetch_of_respond (unchanged.trans answered), fetch_of_respond answered]
      exact response.accept_matches url

end Hub

namespace Generation

variable (hub : Hub) (repository : Repository)

theorem fetchWeights_matches :
    Matches Problem.Counterpart Eq (fetchWeights hub.anonymous repository)
      (fetchWeights hub.identified repository) := by
  rw [fetchWeights_eq_bind, fetchWeights_eq_bind]
  refine (hub.fetch_matches (hub.treeUrl repository.id)).bind ?_
  rintro body _ rfl
  simp only [readWeights]
  cases FileRow.listing body with
  | error defect => exact .failed (.same _ rfl)
  | ok listing =>
      refine .refl_of (fun problem failed => ?_) fun _ => rfl
      rw [Weights.eq_noWeightFiles_of_ofListing failed]
      exact .same _ rfl

theorem fetchConfig_matches (weights : Weights) :
    Matches Problem.Counterpart Eq (fetchConfig hub.anonymous repository weights)
      (fetchConfig hub.identified repository weights) := by
  rw [fetchConfig_eq_bind, fetchConfig_eq_bind]
  refine (hub.fetch_matches (configUrl hub repository weights)).bind ?_
  rintro body _ rfl
  refine .refl_of (fun problem failed => ?_) fun _ => rfl
  rcases ConfigDocument.ofBytes_eq_error_iff.mp failed with ⟨defect, _, rfl⟩
  exact .same _ rfl

theorem run_anonymous_alike :
    Alike Problem.Counterpart (run hub.anonymous repository) (run hub.identified repository) := by
  have weights := fetchWeights_matches hub repository
  refine run_alike rfl (weights.mono ?_) ?_
  · rintro selected _ rfl
    exact .refl selected
  · intro first second selected selected'
    rw [selected, selected'] at weights
    cases weights with
    | succeeded same =>
        subst same
        refine (fetchConfig_matches hub repository first).mono ?_
        rintro config _ rfl
        exact .refl config

/--
Asked without and with a token, a hub gets the same requests, and the generations end in the
same preset, in the same fault, or in problems of which only the names of rejections differ.
-/
theorem run_with_or_without_token :
    let anonymous := run { hub with tokenAttached := false } repository
    let identified := run { hub with tokenAttached := true } repository
    anonymous.requests = identified.requests ∧
      ((∃ preset, anonymous.result = .ok preset ∧ identified.result = .ok preset) ∨
        (∃ fault, anonymous.result = .error (.fault fault) ∧
          identified.result = .error (.fault fault)) ∨
        ∃ first second, anonymous.result = .error (.problem first) ∧
          identified.result = .error (.problem second) ∧
          (first = second ∧ first.isAuthRejection = false ∨
            ∃ url code, first = .authRequired url ∧ second = .status url code ∧
              (code = 401 ∨ code = 403)) ∧
          first.isAuthRejection = second.isAuthRejection) := by
  intro anonymous identified
  have alike : Alike Problem.Counterpart anonymous identified := run_anonymous_alike hub repository
  clear_value anonymous identified
  cases alike with
  | generated preset requests => exact ⟨rfl, .inl ⟨preset, rfl, rfl⟩⟩
  | faulted fault requests => exact ⟨rfl, .inr (.inl ⟨fault, rfl, rfl⟩)⟩
  | failed requests counterpart =>
      refine ⟨rfl, .inr (.inr ⟨_, _, rfl, rfl, ?_, counterpart.isAuthRejection_eq⟩)⟩
      cases counterpart with
      | rejected url code rejection => exact .inr ⟨url, code, rfl, rfl, rejection⟩
      | same problem notRejection => exact .inl ⟨rfl, notRejection⟩

end Generation

end ServingPreset
