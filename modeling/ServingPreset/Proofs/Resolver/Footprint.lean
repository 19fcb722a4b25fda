import Mathlib.Tactic.ByContra
import ServingPreset.Proofs.Resolver.Route

/-!
# What a resolution reads and writes

A resolution writes at most one entry, that of a lowercase name that had to be
generated, so it replaces no entry and a failed one writes nothing. It reads the index
under two names, its own and that of the preset that stands for it (`AgreeOn`). The
resolution of another name writes neither: a preset that stands for a repository has no
slash, and a name that has one to stand for it is never generated. So a name that gave a
model is settled: it gives that model from then on, by a lookup.
-/

namespace ServingPreset

/-- What a resolution shows apart from the index. -/
def Resolution.answer (resolution : Resolution) :
    Except Stop ServedModel × List String × List String :=
  (resolution.result, resolution.tokens, resolution.requests)

namespace Resolver

/-- Two indices that the resolution of a lowercase name cannot tell apart. -/
structure AgreeOn (left right : ModelIndex) (name : String) : Prop where
  own : left.get? name = right.get? name
  standIn : ∀ preset, KnownModels.alias? name = some preset →
    left.get? preset = right.get? preset

/-- A lowercase name whose preset the source has, and the runtime can serve. -/
structure Enrolls (index : ModelIndex) (vault : SecretVault) (source : PresetSource)
    (name secret zone : String) (preset : Preset) : Prop where
  needed : NeedsGeneration index name
  generated : (source name (tokenOrNone vault secret zone)).result = .ok preset
  servable : KnownModels.isServable preset.card.architectures = true

/-- A lowercase name whose resolution is a lookup that finds a model. -/
inductive Settled (index : ModelIndex) (name : String) (model : ServedModel) : Prop where
  | own (found : index.get? name = some model)
  | standIn (preset : String) (unregistered : index.get? name = none)
      (slashed : '/' ∈ name.toList) (known : KnownModels.alias? name = some preset)
      (found : index.get? preset = some model)

variable {index left right : ModelIndex} {vault : SecretVault} {source : PresetSource}
  {modelName secret zone : String}

/-! ### Writes -/

/-- A resolution that enrolls a preset gives and registers its model. -/
theorem resolve_of_enrolls {preset : Preset}
    (enrolls : Enrolls index vault source (Text.lowercase modelName) secret zone preset) :
    resolve index vault source modelName secret zone =
      ⟨.ok (ServedModel.ofPreset preset), [tokenOrNone vault secret zone],
        (source (Text.lowercase modelName) (tokenOrNone vault secret zone)).requests,
        ⟨index.models.insert (Text.lowercase modelName) (ServedModel.ofPreset preset)⟩⟩ := by
  rcases enrolls with ⟨needed, generated, servable⟩
  rw [resolve_of_needed needed, generate_of_enrolled needed.slashed generated servable]

/-- A resolution changes no lookup but that of its own name, and only by enrolling. -/
theorem enrolls_of_changed {name : String}
    (changed : (resolve index vault source modelName secret zone).index.get? name ≠
      index.get? name) :
    name = Text.lowercase modelName ∧
      ∃ preset, Enrolls index vault source (Text.lowercase modelName) secret zone preset := by
  have route : Route index vault source (Text.lowercase modelName) secret zone _ :=
    resolve_route
  generalize resolve index vault source modelName secret zone = resolution at route changed
  cases route with
  | enrolled preset needed generated servable =>
      refine ⟨?_, preset, needed, generated, servable⟩
      by_contra other
      exact changed (NameMap.get?_insert_of_ne _ _ other)
  | _ => exact absurd rfl changed

theorem needed_of_changed {name : String}
    (changed : (resolve index vault source modelName secret zone).index.get? name ≠
      index.get? name) : NeedsGeneration index name := by
  rcases enrolls_of_changed changed with ⟨rfl, preset, enrolls⟩
  exact enrolls.needed

theorem get?_resolve_of_registered {name : String} {model : ServedModel}
    (found : index.get? name = some model) :
    (resolve index vault source modelName secret zone).index.get? name = some model := by
  by_contra lost
  have changed : (resolve index vault source modelName secret zone).index.get? name ≠
      index.get? name := fun same => lost (same.trans found)
  have unregistered := (needed_of_changed changed).unregistered
  rw [found] at unregistered
  contradiction

theorem get?_resolve_of_ne {name : String} (other : name ≠ Text.lowercase modelName) :
    (resolve index vault source modelName secret zone).index.get? name = index.get? name := by
  by_contra changed
  exact other (enrolls_of_changed changed).1

/-- No resolution writes under the name of a preset that stands for a repository. -/
theorem get?_resolve_of_standIn {repository preset : String}
    (known : KnownModels.alias? repository = some preset) :
    (resolve index vault source modelName secret zone).index.get? preset =
      index.get? preset := by
  by_contra changed
  exact KnownModels.bare_of_alias known (needed_of_changed changed).slashed

/-- A resolution that ends without a model leaves the index as it is. -/
theorem index_resolve_of_error {stop : Stop}
    (failed : (resolve index vault source modelName secret zone).result = .error stop) :
    (resolve index vault source modelName secret zone).index = index := by
  have route : Route index vault source (Text.lowercase modelName) secret zone _ :=
    resolve_route
  generalize resolve index vault source modelName secret zone = resolution at route failed
  cases route with
  | enrolled preset needed generated servable => contradiction
  | _ => rfl

theorem agreeOn_resolve {name : String} (other : name ≠ Text.lowercase modelName) :
    AgreeOn (resolve index vault source modelName secret zone).index index name :=
  ⟨get?_resolve_of_ne other, fun _ known => get?_resolve_of_standIn known⟩

/-! ### Reads -/

/-- Generating asks the index for nothing but room under the name. -/
theorem generate_congr {name : String} (slashed : '/' ∈ name.toList)
    (agree : left.get? name = right.get? name) :
    (generate left vault source name secret zone).answer =
        (generate right vault source name secret zone).answer ∧
      (generate left vault source name secret zone).index.get? name =
        (generate right vault source name secret zone).index.get? name := by
  cases made : (source name (tokenOrNone vault secret zone)).result with
  | error stop =>
      rw [generate_of_stopped made, generate_of_stopped made]
      exact ⟨rfl, agree⟩
  | ok preset =>
      by_cases servable : KnownModels.isServable preset.card.architectures = true
      · rw [generate_of_enrolled slashed made servable, generate_of_enrolled slashed made servable]
        refine ⟨rfl, ?_⟩
        simp only [ModelIndex.get?, NameMap.get?_insert_self]
      · have unservable := Bool.eq_false_iff.mpr servable
        rw [generate_of_refused made unservable, generate_of_refused made unservable]
        exact ⟨rfl, agree⟩

/-- Indices that agree on what a resolution reads give it one answer and one own entry. -/
theorem resolve_congr (agree : AgreeOn left right (Text.lowercase modelName)) :
    (resolve left vault source modelName secret zone).answer =
        (resolve right vault source modelName secret zone).answer ∧
      (resolve left vault source modelName secret zone).index.get? (Text.lowercase modelName) =
        (resolve right vault source modelName secret zone).index.get?
          (Text.lowercase modelName) := by
  have own := agree.own
  cases found : left.get? (Text.lowercase modelName) with
  | some model =>
      rw [resolve_of_registered found, resolve_of_registered (own.symm.trans found)]
      exact ⟨rfl, own⟩
  | none =>
      have unregistered := own.symm.trans found
      by_cases slashed : '/' ∈ (Text.lowercase modelName).toList
      · cases known : KnownModels.alias? (Text.lowercase modelName) with
        | none =>
            rw [resolve_of_needed ⟨found, slashed, known⟩,
              resolve_of_needed ⟨unregistered, slashed, known⟩]
            exact generate_congr slashed own
        | some preset =>
            have same := agree.standIn preset known
            cases standIn : left.get? preset with
            | none =>
                rw [resolve_of_vacant found slashed known standIn,
                  resolve_of_vacant unregistered slashed known (same.symm.trans standIn)]
                exact ⟨rfl, own⟩
            | some model =>
                rw [resolve_of_stood found slashed known standIn,
                  resolve_of_stood unregistered slashed known (same.symm.trans standIn)]
                exact ⟨rfl, own⟩
      · rw [resolve_of_bare found slashed, resolve_of_bare unregistered slashed]
        exact ⟨rfl, own⟩

/-! ### Settled names -/

theorem resolve_of_settled {model : ServedModel}
    (settled : Settled index (Text.lowercase modelName) model) :
    resolve index vault source modelName secret zone = .ofLookup index (.ok model) := by
  cases settled with
  | own found => exact resolve_of_registered found
  | standIn preset unregistered slashed known found =>
      exact resolve_of_stood unregistered slashed known found

/-- A resolution that gives a model settles the name. -/
theorem settled_of_ok {model : ServedModel}
    (answered : (resolve index vault source modelName secret zone).result = .ok model) :
    Settled (resolve index vault source modelName secret zone).index
      (Text.lowercase modelName) model := by
  have route : Route index vault source (Text.lowercase modelName) secret zone _ :=
    resolve_route
  generalize resolve index vault source modelName secret zone = resolution at route answered ⊢
  cases route with
  | registered given found =>
      cases answered
      exact .own found
  | stood preset given unregistered slashed known found =>
      cases answered
      exact .standIn preset unregistered slashed known found
  | enrolled preset needed generated servable =>
      cases answered
      exact .own (NameMap.get?_insert_self _ _ _)
  | _ => contradiction

/-- A settled name stays settled when any name is resolved. -/
theorem Settled.resolve {name : String} {model : ServedModel}
    (settled : Settled index name model) :
    Settled (resolve index vault source modelName secret zone).index name model := by
  cases settled with
  | own found => exact .own (get?_resolve_of_registered found)
  | standIn preset unregistered slashed known found =>
      refine .standIn preset ?_ slashed known (get?_resolve_of_registered found)
      by_contra written
      rw [← unregistered] at written
      have unlisted := (needed_of_changed written).unlisted
      rw [known] at unlisted
      contradiction

end Resolver

end ServingPreset
