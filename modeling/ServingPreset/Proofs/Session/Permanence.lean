import ServingPreset.Proofs.Session.History

/-!
# A resolved name stays resolved

As long as nothing is registered by hand, a session replaces and removes no entry of the
index, and a name that once gave a model gives it ever after, by a lookup alone: no token
is handed out and no hub is asked, whatever the hub has come to answer in between.

The invariant is `Resolver.Settled`. A name that is settled by an entry of its own keeps
the entry. A name that is settled by the preset that stands for it keeps that entry, and
never gets one of its own, since it is never generated.
-/

namespace ServingPreset

/-- Whether a step registers a model by hand. -/
def SessionStep.isRegistration : SessionStep → Bool
  | .register _ _ => true
  | _ => false

namespace Moment

variable {vault : SecretVault} {source : NameMap Response → PresetSource} {moment : Moment}
  {name : String} {model : ServedModel}

theorem get?_reached_of_registered (quiet : moment.step.isRegistration = false)
    (found : moment.state.index.get? name = some model) :
    (moment.reached vault source).index.get? name = some model := by
  rcases moment with ⟨state, step⟩
  cases step with
  | register given asked => contradiction
  | respond url response => exact found
  | resolve modelName secret zone => exact Resolver.get?_resolve_of_registered found

/-- A step that registers nothing by hand keeps settled names settled. -/
theorem settled_reached (quiet : moment.step.isRegistration = false)
    (settled : Resolver.Settled moment.state.index name model) :
    Resolver.Settled (moment.reached vault source).index name model := by
  rcases moment with ⟨state, step⟩
  cases step with
  | register given asked => contradiction
  | respond url response => exact settled
  | resolve modelName secret zone => exact settled.resolve

end Moment

namespace SessionState

variable {vault : SecretVault} {source : NameMap Response → PresetSource}
  {state : SessionState} {steps : List SessionStep}

theorem isRegistration_of_mem_history
    (quiet : ∀ step ∈ steps, step.isRegistration = false) {moment : Moment}
    (member : moment ∈ history vault source state steps) :
    moment.step.isRegistration = false := by
  have listed : moment.step ∈ (history vault source state steps).map Moment.step :=
    List.mem_map_of_mem member
  rw [steps_history] at listed
  exact quiet moment.step listed

theorem settled_run {name : String} {model : ServedModel}
    (quiet : ∀ step ∈ steps, step.isRegistration = false)
    (settled : Resolver.Settled state.index name model) :
    Resolver.Settled (run vault source state steps).1.index name model := by
  apply run_preserves (fun reached => Resolver.Settled reached.index name model) settled
  intro moment member
  exact moment.settled_reached (isRegistration_of_mem_history quiet member)

/-- A settled name is resolved by a lookup. -/
theorem step_resolve_of_settled {modelName secret zone : String} {model : ServedModel}
    (settled : Resolver.Settled state.index (Text.lowercase modelName) model) :
    state.step vault source (.resolve modelName secret zone) =
      (state, ⟨.ok (some model), [], [], state.index.names⟩) := by
  simp only [step, Resolver.resolve_of_settled settled]
  rfl

/-- A resolution that gives a model settles its name. -/
theorem settled_of_resolved {modelName secret zone : String} {model : ServedModel}
    (resolved : (state.step vault source (.resolve modelName secret zone)).2.result =
      .ok (some model)) :
    Resolver.Settled (state.step vault source (.resolve modelName secret zone)).1.index
      (Text.lowercase modelName) model := by
  exact Resolver.settled_of_ok (step_resolve_eq_ok_iff.mp resolved)

/--
A name that was resolved to a model gives that model after any further steps but
registrations by hand, in whatever case it is written and with whatever secret: without a
token, without a request and without a change of the state. No step on the way replaces or
removes an entry of the index.
-/
theorem resolved_name_stays_resolved (vault : SecretVault)
    (source : NameMap Response → PresetSource) (state : SessionState)
    (modelName secret zone : String) (model : ServedModel)
    (resolved : (state.step vault source (.resolve modelName secret zone)).2.result =
      .ok (some model))
    (later : List SessionStep) (quiet : ∀ step ∈ later, step.isRegistration = false) :
    let final := (run vault source state (.resolve modelName secret zone :: later)).1
    let moments := history vault source state (.resolve modelName secret zone :: later)
    (∀ other otherSecret otherZone, Text.lowercase other = Text.lowercase modelName →
      final.step vault source (.resolve other otherSecret otherZone) =
        (final, ⟨.ok (some model), [], [], final.index.names⟩)) ∧
    ∀ moment ∈ moments, ∀ name entry, moment.state.index.get? name = some entry →
      (moment.reached vault source).index.get? name = some entry := by
  intro final moments
  have settled : Resolver.Settled final.index (Text.lowercase modelName) model := by
    apply settled_run quiet
    exact settled_of_resolved resolved
  refine ⟨?_, ?_⟩
  · intro other otherSecret otherZone same
    exact step_resolve_of_settled (same ▸ settled)
  · intro moment member name entry found
    have quietRun : ∀ step ∈ SessionStep.resolve modelName secret zone :: later,
        step.isRegistration = false := by
      simpa [SessionStep.isRegistration] using quiet
    have quietMoment := isRegistration_of_mem_history quietRun member
    exact moment.get?_reached_of_registered quietMoment found

open SmallSession in
/-- A known repository is still resolved by its preset when another name has been generated. -/
theorem resolved_name_stays_resolved_falcon :
    let start := (run secretVault hubSource (initial NameMap.empty)
      [.register "falcon-7b" default]).1
    let later : List SessionStep := [listed, configured, .resolve "Org/New-Model" "hf" ""]
    let final := (run secretVault hubSource start (.resolve "tiiuae/falcon-7b" "" "" :: later)).1
    (start.step secretVault hubSource (.resolve "tiiuae/falcon-7b" "" "")).2.result =
        .ok (some default) ∧
      (∀ step ∈ later, step.isRegistration = false) ∧
      Text.lowercase "Tiiuae/Falcon-7B" = Text.lowercase "tiiuae/falcon-7b" ∧
      final.step secretVault hubSource (.resolve "Tiiuae/Falcon-7B" "hf" "") =
        (final, ⟨.ok (some default), [], [], final.index.names⟩) := by
  intro start later final
  have resolved : (start.step secretVault hubSource (.resolve "tiiuae/falcon-7b" "" "")).2.result =
      .ok (some default) := by
    rw [step_resolve_of_settled]
    apply Resolver.Settled.standIn "falcon-7b" <;> decide +kernel
  have quiet : ∀ step ∈ later, step.isRegistration = false := by
    simp [later, listed, configured, SessionStep.isRegistration]
  have same : Text.lowercase "Tiiuae/Falcon-7B" = Text.lowercase "tiiuae/falcon-7b" := by
    decide +kernel
  have stays := resolved_name_stays_resolved secretVault hubSource start "tiiuae/falcon-7b" "" ""
    default resolved later quiet
  exact ⟨resolved, quiet, same, stays.1 "Tiiuae/Falcon-7B" "hf" "" same⟩

end SessionState

end ServingPreset
