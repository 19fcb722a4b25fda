import ServingPreset.Proofs.Session.Reordering
import ServingPreset.Proofs.Text.Lowercase

/-!
# Models registered by hand

A registration writes the name as it is given, and a resolution reads names in lower case.
So a registered model answers to every name that becomes its own in lower case. One whose
own name has other letters is never found: the names that a resolution reads are lowercase
ones, and the presets that stand for repositories are called by such names as well.
-/

namespace ServingPreset

namespace KnownModels

theorem lowercase_of_alias {repository preset : String} (known : alias? repository = some preset) :
    Text.lowercase preset = preset := by
  have plain : (aliases.all fun row => row.2.toList.all Text.isPlain) = true := by decide +kernel
  rcases Option.map_eq_some_iff.mp known with ⟨row, found, rfl⟩
  have letters := List.all_eq_true.mp plain row (List.mem_of_find?_eq_some found)
  exact Text.lowercase_of_plain (List.all_eq_true.mp letters)

end KnownModels

namespace SessionState

variable {vault : SecretVault} {source : NameMap Response → PresetSource} {state : SessionState}
  {name asked secret zone : String} {model : ServedModel}

theorem reached_register (named : name ≠ "") :
    (state.step vault source (.register name model)).1 =
      { state with index := ⟨state.index.models.insert name model⟩ } := by
  rw [step_register, if_neg named]

theorem step_resolve_of_registered (found : state.index.get? (Text.lowercase asked) = some model) :
    state.step vault source (.resolve asked secret zone) =
      (state, ⟨.ok (some model), [], [], state.index.names⟩) := by
  simp only [step, Resolver.resolve_of_registered found]
  rfl

/-- A name with other than lowercase letters is read by no resolution but one that makes it. -/
theorem agreeOn_insert {index : ModelIndex} (mixed : Text.lowercase name ≠ name)
    (other : Text.lowercase asked ≠ name) :
    Resolver.AgreeOn ⟨index.models.insert name model⟩ index (Text.lowercase asked) where
  own := NameMap.get?_insert_of_ne _ _ other
  standIn preset known := by
    apply NameMap.get?_insert_of_ne
    rintro rfl
    exact mixed (KnownModels.lowercase_of_alias known)

/--
A registered model is what a resolution of its name gives, whatever the case of the letters,
without a token and without a request, if the name is registered in lower case. If it is
not, the registration changes no answer to a name that does not become it.
-/
theorem resolve_behind_register (vault : SecretVault) (source : NameMap Response → PresetSource)
    (state : SessionState) (name : String) (model : ServedModel) (named : name ≠ "") :
    let registered := (state.step vault source (.register name model)).1
    (∀ asked secret zone, Text.lowercase asked = name →
        registered.step vault source (.resolve asked secret zone) =
          (registered, ⟨.ok (some model), [], [], registered.index.names⟩)) ∧
      (Text.lowercase name ≠ name →
        ∀ asked secret zone, Text.lowercase asked ≠ name →
          (registered.step vault source (.resolve asked secret zone)).2.answer =
            (state.step vault source (.resolve asked secret zone)).2.answer) := by
  intro registered
  have reached : registered = { state with index := ⟨state.index.models.insert name model⟩ } :=
    reached_register named
  refine ⟨?_, ?_⟩
  · intro asked secret zone same
    apply step_resolve_of_registered
    rw [reached, same]
    exact NameMap.get?_insert_self _ _ _
  · intro mixed asked secret zone other
    have sameHub : registered.responses = state.responses := by rw [reached]
    let inquiry : Inquiry := ⟨asked, secret, zone⟩
    have agree : Resolver.AgreeOn registered.index state.index inquiry.key := by
      rw [reached]
      exact agreeOn_insert mixed other
    exact (step_inquiry_congr sameHub agree).1

open SmallSession in
/-- A model registered in lower case is found with a capital letter. -/
theorem resolve_behind_register_phi :
    let registered :=
      ((initial NameMap.empty).step secretVault hubSource (.register "phi-4" default)).1
    "phi-4" ≠ "" ∧ registered.step secretVault hubSource (.resolve "Phi-4" "hf" "") =
      (registered, ⟨.ok (some default), [], [], ["phi-4"]⟩) := by
  intro registered
  have named : "phi-4" ≠ "" := by decide
  have same : Text.lowercase "Phi-4" = "phi-4" := by decide +kernel
  have found := (resolve_behind_register secretVault hubSource (initial NameMap.empty) "phi-4"
    default named).1 "Phi-4" "hf" "" same
  exact ⟨named, found⟩

open SmallSession in
/--
Models registered with a capital letter are not found by their names: one is missing, and
for the other a token is handed out and the hub is asked.
-/
theorem registered_and_unfound :
    let bare := ((initial NameMap.empty).step secretVault hubSource (.register "Phi-4" default)).1
    let slashed :=
      ((initial NameMap.empty).step secretVault hubSource (.register "Org/Model" default)).1
    (bare.index.get? "Phi-4" = some default ∧
        (bare.step secretVault hubSource (.resolve "Phi-4" "" "")).2.result =
          .error (.problem (.notRegistered "phi-4"))) ∧
      slashed.index.get? "Org/Model" = some default ∧
      (slashed.step secretVault hubSource (.resolve "Org/Model" "hf" "")).2.answer =
        (.error (.problem (.status
            "https://huggingface.co/api/models/org/model/tree/main?recursive=true" 404)),
          ["hf_abc"],
          ["https://huggingface.co/api/models/org/model/tree/main?recursive=true"]) := by
  with_unfolding_all exact ⟨⟨rfl, rfl⟩, rfl, rfl⟩

end SessionState

end ServingPreset
