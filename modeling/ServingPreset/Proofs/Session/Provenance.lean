import ServingPreset.Proofs.Session.History

/-!
# Where registered models come from

Every name of an index that a session has built up was either registered by hand or
resolved by generating a preset. The model of a name that was only ever generated is the
one of the preset that the source gave for exactly that name.

Each moment of a session writes at most one entry. The invariant `Accounted` charges each
entry of the index to a moment of the history; a step preserves it because a new entry is
charged to the step itself.
-/

namespace ServingPreset

namespace Moment

variable (vault : SecretVault) (source : NameMap Response → PresetSource)

/-- The moment registers a model by hand. -/
structure Registers (moment : Moment) (name : String) (model : ServedModel) : Prop where
  asked : moment.step = .register name model
  accepted : (moment.report vault source).result = .ok none

/-- The moment resolves a name by generating a preset, and gives its model. -/
structure Generates (moment : Moment) (name : String) (preset : Preset) : Prop where
  asked : ∃ modelName secret zone, moment.step = .resolve modelName secret zone ∧
    Text.lowercase modelName = name ∧
    Resolver.Enrolls moment.state.index vault (source moment.state.responses) name secret zone
      preset
  answered : (moment.report vault source).result = .ok (some (ServedModel.ofPreset preset))

variable {vault source} {moment : Moment} {name : String}

/-- An entry behind a moment was there before, or the moment wrote it. -/
theorem get?_reached {model : ServedModel}
    (found : (moment.reached vault source).index.get? name = some model) :
    moment.state.index.get? name = some model ∨ moment.Registers vault source name model ∨
      ∃ preset, moment.Generates vault source name preset ∧
        model = ServedModel.ofPreset preset := by
  rcases moment with ⟨state, step⟩
  cases step with
  | respond url response => exact .inl found
  | register given asked =>
      by_cases unnamed : given = ""
      · simp only [reached, SessionState.step_register, unnamed, if_true] at found
        exact .inl found
      · simp only [reached, SessionState.step_register, unnamed, if_false] at found
        by_cases same : name = given
        · subst same
          rw [ModelIndex.get?, NameMap.get?_insert_self, Option.some.injEq] at found
          subst found
          refine .inr (.inl ⟨rfl, ?_⟩)
          simp only [report, SessionState.step_register, unnamed, if_false]
        · rw [ModelIndex.get?, NameMap.get?_insert_of_ne _ _ same] at found
          exact .inl found
  | resolve modelName secret zone =>
      by_cases kept : state.index.get? name = some model
      · exact .inl kept
      · right
        right
        change (Resolver.resolve state.index vault (source state.responses) modelName secret
          zone).index.get? name = some model at found
        have changed := found.trans_ne (Ne.symm kept)
        rcases Resolver.enrolls_of_changed changed with ⟨rfl, preset, enrolls⟩
        have outcome := Resolver.resolve_of_enrolls enrolls
        rw [outcome] at found
        rw [ModelIndex.get?, NameMap.get?_insert_self, Option.some.injEq] at found
        refine ⟨preset, ⟨⟨modelName, secret, zone, rfl, rfl, enrolls⟩, ?_⟩, found.symm⟩
        simp only [report, SessionState.step, outcome, Except.map]

theorem Registers.written {model : ServedModel}
    (registers : moment.Registers vault source name model) :
    (moment.reached vault source).index.get? name = some model := by
  rcases moment with ⟨state, step⟩
  rcases registers with ⟨asked, accepted⟩
  subst asked
  by_cases unnamed : name = ""
  · simp only [report, SessionState.step_register, unnamed, if_true] at accepted
    contradiction
  · simp only [reached, SessionState.step_register, unnamed, if_false]
    exact NameMap.get?_insert_self _ _ _

theorem Generates.written {preset : Preset}
    (generates : moment.Generates vault source name preset) :
    (moment.reached vault source).index.get? name = some (ServedModel.ofPreset preset) := by
  rcases moment with ⟨state, step⟩
  rcases generates.asked with ⟨modelName, secret, zone, asked, rfl, enrolls⟩
  subst asked
  simp only [reached, SessionState.step, Resolver.resolve_of_enrolls enrolls]
  exact NameMap.get?_insert_self _ _ _

theorem mem_names_reached (present : name ∈ moment.state.index.names) :
    name ∈ (moment.reached vault source).index.names := by
  rcases NameMap.mem_names_iff.mp present with ⟨model, found⟩
  apply NameMap.mem_names_iff.mpr
  rcases moment with ⟨state, step⟩
  cases step with
  | respond url response => exact ⟨model, found⟩
  | register given asked =>
      by_cases unnamed : given = ""
      · simp only [reached, SessionState.step_register, unnamed, if_true]
        exact ⟨model, found⟩
      · simp only [reached, SessionState.step_register, unnamed, if_false]
        by_cases same : name = given
        · subst same
          exact ⟨asked, NameMap.get?_insert_self _ _ _⟩
        · exact ⟨model, (NameMap.get?_insert_of_ne _ _ same).trans found⟩
  | resolve modelName secret zone =>
      exact ⟨model, Resolver.get?_resolve_of_registered found⟩

end Moment

namespace SessionState

variable {vault : SecretVault} {source : NameMap Response → PresetSource}
  {state : SessionState} {steps : List SessionStep} {name : String}

/-- Each entry of the index was written by a moment of the history. -/
def Accounted (vault : SecretVault) (source : NameMap Response → PresetSource)
    (history : List Moment) (state : SessionState) : Prop :=
  ∀ name model, state.index.get? name = some model →
    (∃ moment ∈ history, ∃ model, moment.Registers vault source name model) ∨
      ∃ moment ∈ history, ∃ preset, moment.Generates vault source name preset ∧
        model = ServedModel.ofPreset preset

theorem accounted_reached {history : List Moment} {moment : Moment} (member : moment ∈ history)
    (accounted : Accounted vault source history moment.state) :
    Accounted vault source history (moment.reached vault source) := by
  intro name model found
  rcases moment.get?_reached found with older | registers | ⟨preset, generates, same⟩
  · exact accounted name model older
  · exact .inl ⟨moment, member, model, registers⟩
  · exact .inr ⟨moment, member, preset, generates, same⟩

/-- An index that was empty in the beginning is accounted for by the history. -/
theorem accounted_run (responses : NameMap Response) :
    Accounted vault source (history vault source (initial responses) steps)
      (run vault source (initial responses) steps).1 := by
  apply run_preserves (Accounted vault source _)
  · intro name model found
    rw [initial, ModelIndex.get?, ModelIndex.empty, NameMap.get?_empty] at found
    contradiction
  · intro moment member
    exact accounted_reached member

theorem mem_names_run (present : name ∈ state.index.names) :
    name ∈ (run vault source state steps).1.index.names := by
  apply run_preserves (fun reached => name ∈ reached.index.names) present
  intro moment _
  exact moment.mem_names_reached

/-- A name behind any moment of a run is still there at its end. -/
theorem mem_names_run_of_reached {moment : Moment}
    (member : moment ∈ history vault source state steps)
    (present : name ∈ (moment.reached vault source).index.names) :
    name ∈ (run vault source state steps).1.index.names := by
  rcases exists_split_of_mem_history member with ⟨earlier, later, rfl, here⟩
  rw [reached_run_append, ← here, run_cons]
  exact mem_names_run present

/--
The names of an index that a session has built up are those that were registered by hand
and those that were generated, and a name that was never registered by hand has the model
that was generated for it.
-/
theorem names_run_initial (vault : SecretVault) (source : NameMap Response → PresetSource)
    (responses : NameMap Response) (steps : List SessionStep) (name : String) :
    let moments := history vault source (initial responses) steps
    let final := (run vault source (initial responses) steps).1
    (name ∈ final.index.names ↔
      (∃ moment ∈ moments, ∃ model, moment.Registers vault source name model) ∨
        ∃ moment ∈ moments, ∃ preset, moment.Generates vault source name preset) ∧
    (name ∈ final.index.names →
      (∀ moment ∈ moments, ∀ model, ¬moment.Registers vault source name model) →
      '/' ∈ name.toList ∧ name ∉ KnownModels.aliases.map Prod.fst ∧
        ∃ moment ∈ moments, ∃ preset, moment.Generates vault source name preset ∧
          final.index.get? name = some (ServedModel.ofPreset preset) ∧
          (preset.card.architectures = [] ∨
            ∃ architecture ∈ preset.card.architectures,
              architecture ∈ KnownModels.supportedArchitectures)) := by
  intro moments final
  have accounted : Accounted vault source moments final := accounted_run responses
  refine ⟨⟨?_, ?_⟩, ?_⟩
  · intro present
    rcases NameMap.mem_names_iff.mp present with ⟨model, found⟩
    rcases accounted name model found with registers | ⟨moment, member, preset, generates, _⟩
    · exact .inl registers
    · exact .inr ⟨moment, member, preset, generates⟩
  · rintro (⟨moment, member, model, registers⟩ | ⟨moment, member, preset, generates⟩)
    · exact mem_names_run_of_reached member (NameMap.mem_names_iff.mpr ⟨_, registers.written⟩)
    · exact mem_names_run_of_reached member (NameMap.mem_names_iff.mpr ⟨_, generates.written⟩)
  · intro present notByHand
    rcases NameMap.mem_names_iff.mp present with ⟨model, found⟩
    rcases accounted name model found with
      ⟨moment, member, given, registers⟩ | ⟨moment, member, preset, generates, rfl⟩
    · exact absurd registers (notByHand moment member given)
    · rcases generates.asked with ⟨modelName, secret, zone, _, _, enrolls⟩
      refine ⟨enrolls.needed.slashed, KnownModels.alias?_eq_none_iff.mp enrolls.needed.unlisted,
        moment, member, preset, generates, found, ?_⟩
      exact KnownModels.isServable_iff.mp enrolls.servable

open SmallSession in
/-- A model registered by hand and one generated for a name that was asked for in capitals. -/
theorem names_run_initial_newModel :
    let steps : List SessionStep :=
      [.register "phi-4" default, listed, configured, .resolve "Org/New-Model" "hf" ""]
    let moments := history secretVault hubSource (initial NameMap.empty) steps
    let final := (run secretVault hubSource (initial NameMap.empty) steps).1
    "org/new-model" ∈ final.index.names ∧
      (∀ moment ∈ moments, ∀ model, ¬moment.Registers secretVault hubSource "org/new-model" model) ∧
      ∃ moment ∈ moments, ∃ preset, moment.Generates secretVault hubSource "org/new-model" preset ∧
        final.index.get? "org/new-model" = some (ServedModel.ofPreset preset) := by
  intro steps moments final
  have present : "org/new-model" ∈ final.index.names := by decide +kernel
  have notByHand : ∀ moment ∈ moments, ∀ model,
      ¬moment.Registers secretVault hubSource "org/new-model" model := by
    intro moment member model registers
    have asked : moment.step ∈ moments.map Moment.step := List.mem_map_of_mem member
    rw [steps_history, registers.asked] at asked
    simp [steps, listed, configured] at asked
  have origin := names_run_initial secretVault hubSource NameMap.empty steps "org/new-model"
  rcases origin.2 present notByHand with ⟨_, _, moment, member, preset, generates, found, _⟩
  exact ⟨present, notByHand, moment, member, preset, generates, found⟩

end SessionState

end ServingPreset
