import ServingPreset.Proofs.Session.History

/-!
# Failed resolutions leave no trace

A resolution that ends in a problem or in a fault leaves the state as it is. So any of the
failed resolutions of a run can be left out, with the same reports of all other steps and
the same state at the end, and a name whose resolutions have all failed is resolved as
if it had never been asked for.
-/

namespace ServingPreset

/-- Whether a step asks for the model of a lowercase name. -/
def SessionStep.asksFor (name : String) : SessionStep → Bool
  | .resolve modelName _ _ => Text.lowercase modelName == name
  | _ => false

namespace Moment

/-- Whether the moment is a resolution that ends without a model. -/
def isFailure (vault : SecretVault) (source : NameMap Response → PresetSource)
    (moment : Moment) : Bool :=
  match moment.step with
  | .resolve _ _ _ => !(moment.report vault source).result.isOk
  | _ => false

variable {vault : SecretVault} {source : NameMap Response → PresetSource} {moment : Moment}

theorem isFailure_iff : moment.isFailure vault source = true ↔
    ∃ modelName secret zone stop, moment.step = .resolve modelName secret zone ∧
      (moment.report vault source).result = .error stop := by
  rcases moment with ⟨state, step⟩
  cases step with
  | register name model => simp [isFailure]
  | respond url response => simp [isFailure]
  | resolve modelName secret zone =>
      cases ended : (report vault source ⟨state, .resolve modelName secret zone⟩).result <;>
        simp [isFailure, ended, Except.isOk, Except.toBool]

/-- A failed resolution leaves the state as it is. -/
theorem reached_of_isFailure (failure : moment.isFailure vault source = true) :
    moment.reached vault source = moment.state := by
  rcases isFailure_iff.mp failure with ⟨modelName, secret, zone, stop, asked, failed⟩
  rcases moment with ⟨state, step⟩
  subst asked
  have ended := SessionState.step_resolve_eq_error_iff.mp failed
  have unmoved := Resolver.index_resolve_of_error ended
  simp only [reached, SessionState.step, unmoved]

theorem names_report : (moment.report vault source).names =
    (moment.reached vault source).index.names := by
  rcases moment with ⟨state, step⟩
  cases step with
  | respond url response => rfl
  | resolve modelName secret zone => rfl
  | register name model =>
      simp only [report, reached, SessionState.step]
      split <;> rfl

end Moment

namespace SessionState

variable {vault : SecretVault} {source : NameMap Response → PresetSource}
  {state : SessionState} {steps : List SessionStep}

/-- Leaving failed resolutions out keeps all other moments and the state at the end. -/
theorem history_erase (dropped : Moment → Bool)
    (failed : ∀ moment ∈ history vault source state steps, dropped moment = true →
      moment.isFailure vault source = true) :
    let kept := (history vault source state steps).filter (fun moment => !dropped moment)
    history vault source state (kept.map Moment.step) = kept ∧
      (run vault source state (kept.map Moment.step)).1 = (run vault source state steps).1 := by
  induction steps generalizing state with
  | nil => exact ⟨rfl, rfl⟩
  | cons next later ih =>
      have rest := ih fun moment member => failed moment (List.mem_cons_of_mem _ member)
      simp only [history]
      by_cases drop : dropped ⟨state, next⟩ = true
      · -- a dropped step has left the state alone, so the rest starts from the same state
        have failure := failed ⟨state, next⟩ List.mem_cons_self drop
        have unmoved : (state.step vault source next).1 = state :=
          Moment.reached_of_isFailure failure
        rw [List.filter_cons_of_neg (by simp [drop]), run_cons]
        rw [unmoved] at rest ⊢
        exact rest
      · rw [List.filter_cons_of_pos (by simp [drop]), List.map_cons, run_cons, run_cons]
        simp only [history, rest, and_self]

/-- Leaving out all resolutions of a name keeps the state at the end when all of them failed. -/
theorem run_filter_asksFor (name : String)
    (failed : ∀ moment ∈ history vault source state steps, moment.step.asksFor name = true →
      moment.isFailure vault source = true) :
    (run vault source state (steps.filter fun step => !step.asksFor name)).1 =
      (run vault source state steps).1 := by
  have erased := (history_erase (fun moment => moment.step.asksFor name) failed).2
  have listed : (history vault source state steps).map Moment.step = steps :=
    steps_history steps
  have kept : ((history vault source state steps).filter fun moment =>
      !moment.step.asksFor name).map Moment.step =
        steps.filter fun step => !step.asksFor name := by
    conv_rhs => rw [← listed, List.filter_map]
    rfl
  rwa [kept] at erased

/--
A failed resolution leaves the state as it is. The failed resolutions of a run can be left
out: every other step is reported as before, and the run ends in the same state. A name
whose resolutions have all failed so far, whatever else has happened in between, is resolved
as if it was asked for the first time.
-/
theorem failures_leave_no_trace (vault : SecretVault)
    (source : NameMap Response → PresetSource) (state : SessionState)
    (steps : List SessionStep) :
    let moments := history vault source state steps
    let kept := moments.filter (fun moment => !moment.isFailure vault source)
    (∀ moment ∈ moments, moment.isFailure vault source = true →
      moment.reached vault source = moment.state ∧
        (moment.report vault source).names = moment.state.index.names) ∧
    ((run vault source state steps).2 = moments.map (Moment.report vault source) ∧
      (run vault source state (kept.map Moment.step)).2 =
        kept.map (Moment.report vault source) ∧
      (run vault source state (kept.map Moment.step)).1 =
        (run vault source state steps).1) ∧
    ∀ modelName secret zone,
      (∀ moment ∈ moments, moment.step.asksFor (Text.lowercase modelName) = true →
        moment.isFailure vault source = true) →
      (run vault source state steps).1.step vault source (.resolve modelName secret zone) =
        (run vault source state
          (steps.filter fun step => !step.asksFor (Text.lowercase modelName))).1.step
            vault source (.resolve modelName secret zone) := by
  intro moments kept
  have erased : history vault source state (kept.map Moment.step) = kept ∧
      (run vault source state (kept.map Moment.step)).1 = (run vault source state steps).1 :=
    history_erase (Moment.isFailure vault source) fun _ _ failure => failure
  refine ⟨?_, ⟨reports_run steps, ?_, erased.2⟩, ?_⟩
  · intro moment _ failure
    have unmoved := Moment.reached_of_isFailure failure
    exact ⟨unmoved, by rw [Moment.names_report, unmoved]⟩
  · rw [reports_run, erased.1]
  · intro modelName secret zone failed
    rw [run_filter_asksFor _ failed]

open SmallSession in
/-- A name that the hub did not know at first is resolved as if it was asked for later only. -/
theorem failures_leave_no_trace_newModel :
    let start := initial NameMap.empty
    let failing : Moment := ⟨start, .resolve "org/new-model" "hf" ""⟩
    let steps : List SessionStep := [failing.step, listed, configured]
    failing ∈ history secretVault hubSource start steps ∧
      failing.isFailure secretVault hubSource = true ∧
      failing.reached secretVault hubSource = start ∧
      (∀ moment ∈ history secretVault hubSource start steps,
        moment.step.asksFor (Text.lowercase "Org/New-Model") = true →
          moment.isFailure secretVault hubSource = true) ∧
      (run secretVault hubSource start steps).1.step secretVault hubSource
          (.resolve "Org/New-Model" "" "") =
        (run secretVault hubSource start (steps.filter fun step =>
          !step.asksFor (Text.lowercase "Org/New-Model"))).1.step secretVault hubSource
            (.resolve "Org/New-Model" "" "") := by
  intro start failing steps
  have member : failing ∈ history secretVault hubSource start steps := List.mem_cons_self
  have failure : failing.isFailure secretVault hubSource = true := by decide +kernel
  have failed : ∀ moment ∈ history secretVault hubSource start steps,
      moment.step.asksFor (Text.lowercase "Org/New-Model") = true →
        moment.isFailure secretVault hubSource = true := by decide +kernel
  rcases failures_leave_no_trace secretVault hubSource start steps with ⟨unmoved, _, asFirst⟩
  exact ⟨member, failure, (unmoved failing member failure).1, failed, asFirst _ _ _ failed⟩

end SessionState

end ServingPreset
