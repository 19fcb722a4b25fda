import ServingPreset.Proofs.Resolver.Footprint
import ServingPreset.Resolver.Session

/-!
# Histories of sessions

The history of a run lists its steps, each with the state in which it is taken. The
reports of a run are those of the moments of its history, and what every moment of the
history preserves holds at the end of the run.
-/

namespace ServingPreset

/-- A step of a session and the state in which it is taken. -/
structure Moment where
  state : SessionState
  step : SessionStep

namespace Moment

variable (vault : SecretVault) (source : NameMap Response → PresetSource)

/-- The state behind the step. -/
def reached (moment : Moment) : SessionState :=
  (moment.state.step vault source moment.step).1

/-- What the step gives. -/
def report (moment : Moment) : SessionReport :=
  (moment.state.step vault source moment.step).2

end Moment

namespace SessionState

variable (vault : SecretVault) (source : NameMap Response → PresetSource)

/-- The moments of a run. -/
def history : SessionState → List SessionStep → List Moment
  | _, [] => []
  | state, next :: later => ⟨state, next⟩ :: history (state.step vault source next).1 later

variable {vault source} {state : SessionState}

theorem run_cons (next : SessionStep) (later : List SessionStep) :
    run vault source state (next :: later) =
      ((run vault source (state.step vault source next).1 later).1,
        (state.step vault source next).2 ::
          (run vault source (state.step vault source next).1 later).2) := rfl

/-- A registration writes its entry unless the name is empty. -/
theorem step_register (name : String) (model : ServedModel) :
    state.step vault source (.register name model) =
      if name = "" then
        (state, ⟨.error (.fault .unnamedModel), [], [], state.index.names⟩)
      else
        ({ state with index := ⟨state.index.models.insert name model⟩ },
          ⟨.ok none, [], [], (state.index.models.insert name model).names⟩) := by
  by_cases unnamed : name = ""
  · simp [step, ModelIndex.register, unnamed]
  · simp [step, ModelIndex.register_of_ne_empty _ _ unnamed, unnamed, ModelIndex.names]

theorem step_resolve_eq_ok_iff {modelName secret zone : String} {model : ServedModel} :
    (state.step vault source (.resolve modelName secret zone)).2.result = .ok (some model) ↔
      (Resolver.resolve state.index vault (source state.responses) modelName secret zone).result =
        .ok model := by
  simp only [step]
  generalize Resolver.resolve state.index vault _ modelName secret zone = resolution
  cases resolution.result <;> simp [Except.map]

theorem step_resolve_eq_error_iff {modelName secret zone : String} {stop : Stop} :
    (state.step vault source (.resolve modelName secret zone)).2.result = .error stop ↔
      (Resolver.resolve state.index vault (source state.responses) modelName secret zone).result =
        .error stop := by
  simp only [step]
  generalize Resolver.resolve state.index vault _ modelName secret zone = resolution
  cases resolution.result <;> simp [Except.map]

@[simp]
theorem steps_history (steps : List SessionStep) :
    (history vault source state steps).map Moment.step = steps := by
  induction steps generalizing state with
  | nil => rfl
  | cons next later ih => simp [history, ih]

theorem reports_run (steps : List SessionStep) :
    (run vault source state steps).2 =
      (history vault source state steps).map (Moment.report vault source) := by
  induction steps generalizing state with
  | nil => rfl
  | cons next later ih => simp [run_cons, history, Moment.report, ih]

theorem reached_run_append (earlier later : List SessionStep) :
    (run vault source state (earlier ++ later)).1 =
      (run vault source (run vault source state earlier).1 later).1 := by
  induction earlier generalizing state with
  | nil => rfl
  | cons next earlier ih => simp [run_cons, ih]

/-- A moment of a history divides the run into what comes before and after it. -/
theorem exists_split_of_mem_history {steps : List SessionStep} {moment : Moment}
    (member : moment ∈ history vault source state steps) :
    ∃ earlier later, steps = earlier ++ moment.step :: later ∧
      moment.state = (run vault source state earlier).1 := by
  induction steps generalizing state with
  | nil => simp [history] at member
  | cons next later ih =>
      rcases List.mem_cons.mp member with rfl | older
      · exact ⟨[], later, rfl, rfl⟩
      · rcases ih older with ⟨before, after, rfl, here⟩
        exact ⟨next :: before, after, rfl, here⟩

/-- What holds in the beginning and is preserved by every moment holds in the end. -/
theorem run_preserves (Holds : SessionState → Prop) {steps : List SessionStep}
    (initially : Holds state)
    (preserved : ∀ moment ∈ history vault source state steps,
      Holds moment.state → Holds (moment.reached vault source)) :
    Holds (run vault source state steps).1 := by
  induction steps generalizing state with
  | nil => exact initially
  | cons next later ih =>
      rw [run_cons]
      apply ih
      · exact preserved ⟨state, next⟩ List.mem_cons_self initially
      · intro moment member
        exact preserved moment (List.mem_cons_of_mem _ member)

end SessionState

/-! ### A small session -/

namespace SmallSession

/-- A vault with a single token. -/
def secretVault : SecretVault :=
  SecretVault.ofSecrets [⟨"default", "hf", NameMap.ofList [("HF_TOKEN", "hf_abc")]⟩]

/-- The generator over a hub that is asked without a token. -/
def hubSource : NameMap Response → PresetSource :=
  PresetSource.ofResponses "https://huggingface.co" false

/-- The hub comes to list the files of a repository. -/
def listed : SessionStep :=
  .respond "https://huggingface.co/api/models/org/new-model/tree/main?recursive=true"
    ⟨200, "[[\"model.safetensors\", 1073741824]]".toUTF8.toList⟩

/-- The hub comes to give the configuration of the repository. -/
def configured : SessionStep :=
  .respond "https://huggingface.co/org/new-model/resolve/main/config.json"
    ⟨200, "\x7b\"architectures\": [\"LlamaForCausalLM\"]\x7d".toUTF8.toList⟩

end SmallSession

end ServingPreset
