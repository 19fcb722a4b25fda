import ServingPreset.Proofs.Session.Permanence
import ServingPreset.Proofs.Session.Provenance
import ServingPreset.Proofs.Session.Registration

/-!
# Listed names are resolved back

A session that registers nothing by hand writes under lowercase names only, and a lowercase
name is its own lowercase form. So what such a session lists is what its resolutions look
up: each listed name gives the model that is stored under it, by a lookup alone.

The invariant is `ModelIndex.IsLowercase`. A step that registers nothing by hand preserves
it, because the one name that the step can write is the lowercase form of what it asks for.
-/

namespace ServingPreset

/-- Whether every registered name is its own lowercase form. -/
def ModelIndex.IsLowercase (index : ModelIndex) : Prop :=
  ∀ name ∈ index.names, Text.lowercase name = name

theorem ModelIndex.isLowercase_empty : ModelIndex.empty.IsLowercase := by
  intro name present
  contradiction

namespace Moment

variable {vault : SecretVault} {source : NameMap Response → PresetSource} {moment : Moment}

/-- A step that registers nothing by hand writes under a lowercase name, if at all. -/
theorem isLowercase_reached (quiet : moment.step.isRegistration = false)
    (lowercase : moment.state.index.IsLowercase) :
    (moment.reached vault source).index.IsLowercase := by
  intro name present
  rcases NameMap.mem_names_iff.mp present with ⟨model, found⟩
  rcases moment.get?_reached found with older | registers | ⟨preset, generates, _⟩
  · exact lowercase name (NameMap.mem_names_iff.mpr ⟨model, older⟩)
  · rw [registers.asked] at quiet
    contradiction
  · rcases generates.asked with ⟨modelName, secret, zone, _, rfl, _⟩
    exact Text.lowercase_lowercase modelName

end Moment

namespace SessionState

variable {vault : SecretVault} {source : NameMap Response → PresetSource}
  {state : SessionState} {steps : List SessionStep}

theorem isLowercase_run (quiet : ∀ step ∈ steps, step.isRegistration = false)
    (lowercase : state.index.IsLowercase) :
    (run vault source state steps).1.index.IsLowercase := by
  apply run_preserves (fun reached => reached.index.IsLowercase) lowercase
  intro moment member
  exact moment.isLowercase_reached (isRegistration_of_mem_history quiet member)

/--
Every name that a session lists, when it began without models and registered none by hand,
is its own lowercase form. Resolving that very name gives the model that is stored under it,
with any vault, source and secret: without a token, without a request and without a change
of the state.
-/
theorem listed_name_resolves_back (vault : SecretVault)
    (source : NameMap Response → PresetSource) (responses : NameMap Response)
    (steps : List SessionStep) (quiet : ∀ step ∈ steps, step.isRegistration = false)
    (name : String) :
    let final := (run vault source (initial responses) steps).1
    name ∈ final.index.names →
      Text.lowercase name = name ∧
        ∃ model, final.index.get? name = some model ∧
          ∀ anyVault anySource secret zone,
            final.step anyVault anySource (.resolve name secret zone) =
              (final, ⟨.ok (some model), [], [], final.index.names⟩) := by
  intro final listed
  have lowercase : Text.lowercase name = name :=
    isLowercase_run quiet ModelIndex.isLowercase_empty name listed
  rcases NameMap.mem_names_iff.mp listed with ⟨model, found⟩
  refine ⟨lowercase, model, found, ?_⟩
  intro anyVault anySource secret zone
  apply step_resolve_of_registered
  rwa [lowercase]

/-- A name with a dotted capital I and two sigmas is listed in its lowercase form. -/
theorem listed_name_resolves_back_sigma :
    let generator : NameMap Response → PresetSource := fun _ _ _ => ⟨.ok default, []⟩
    let steps : List SessionStep := [.resolve "ΣΑΣ/İΣ" "hf" ""]
    let final := (run SmallSession.secretVault generator (initial NameMap.empty) steps).1
    (∀ step ∈ steps, step.isRegistration = false) ∧ final.index.names = ["σας/i̇ς"] ∧
      final.step SmallSession.secretVault generator (.resolve "σας/i̇ς" "hf" "") =
        (final, ⟨.ok (some (ServedModel.ofPreset default)), [], [], ["σας/i̇ς"]⟩) := by
  intro generator steps final
  have quiet : ∀ step ∈ steps, step.isRegistration = false := by
    simp [steps, SessionStep.isRegistration]
  have names : final.index.names = ["σας/i̇ς"] := by decide +kernel
  have listed : "σας/i̇ς" ∈ final.index.names := by simp [names]
  rcases listed_name_resolves_back SmallSession.secretVault generator NameMap.empty steps quiet
    "σας/i̇ς" listed with ⟨_, model, found, back⟩
  have stored : final.index.get? "σας/i̇ς" = some (ServedModel.ofPreset default) := by
    decide +kernel
  rw [found, Option.some.injEq] at stored
  rw [← stored, ← names]
  exact ⟨quiet, rfl, back SmallSession.secretVault generator "hf" ""⟩

end SessionState

end ServingPreset
