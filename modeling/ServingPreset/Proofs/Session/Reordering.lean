import ServingPreset.Proofs.Session.History

/-!
# The order of resolutions does not matter

Names that are pairwise different in lower case can be resolved in any order: each gets
the answer that it would get alone, and the index at the end is the same. A resolution
leaves to every other name what that name reads (`Resolver.AgreeOn`). Hence a name finds
the index of the beginning whenever its turn comes, and the entry under it is the one that
its own resolution left.
-/

namespace ServingPreset

/-- What a resolver is asked for. -/
structure Inquiry where
  modelName : String
  secret : String
  zone : String

namespace Inquiry

/-- The name under which the model is looked for. -/
def key (inquiry : Inquiry) : String :=
  Text.lowercase inquiry.modelName

/-- The step of a session that asks. -/
def step (inquiry : Inquiry) : SessionStep :=
  .resolve inquiry.modelName inquiry.secret inquiry.zone

end Inquiry

/-- What a step gave, apart from the names that are registered after it. -/
def SessionReport.answer (report : SessionReport) :
    Except Stop (Option ServedModel) × List String × List String :=
  (report.result, report.tokens, report.requests)

namespace SessionState

variable {vault : SecretVault} {source : NameMap Response → PresetSource}
  {state : SessionState} {asked : List Inquiry}

theorem responses_run_inquiries :
    (run vault source state (asked.map Inquiry.step)).1.responses = state.responses := by
  induction asked generalizing state with
  | nil => rfl
  | cons inquiry later ih =>
      rw [List.map_cons, run_cons, ih]
      rfl

/-- States that agree on what an inquiry reads give it one answer and one entry of its own. -/
theorem step_inquiry_congr {left right : SessionState} {inquiry : Inquiry}
    (sameHub : left.responses = right.responses)
    (agree : Resolver.AgreeOn left.index right.index inquiry.key) :
    (left.step vault source inquiry.step).2.answer =
        (right.step vault source inquiry.step).2.answer ∧
      (left.step vault source inquiry.step).1.index.get? inquiry.key =
        (right.step vault source inquiry.step).1.index.get? inquiry.key := by
  rcases left with ⟨leftIndex, responses⟩
  rcases right with ⟨rightIndex, responses'⟩
  subst sameHub
  rcases Resolver.resolve_congr agree with ⟨sameAnswer, sameEntry⟩
  exact ⟨congrArg (fun answer => (answer.1.map some, answer.2)) sameAnswer, sameEntry⟩

/-- An inquiry after one name changes neither answer nor entry of one after another name. -/
theorem step_inquiry_behind {inquiry next : Inquiry} (other : next.key ≠ inquiry.key) :
    let reached := (state.step vault source inquiry.step).1
    (reached.step vault source next.step).2.answer =
        (state.step vault source next.step).2.answer ∧
      (reached.step vault source next.step).1.index.get? next.key =
        (state.step vault source next.step).1.index.get? next.key := by
  intro reached
  have sameHub : reached.responses = state.responses := rfl
  exact step_inquiry_congr sameHub (Resolver.agreeOn_resolve other)

/-- Each of several inquiries after different names gets the answer that it gets alone. -/
theorem answers_run_inquiries (distinct : (asked.map Inquiry.key).Nodup) :
    (run vault source state (asked.map Inquiry.step)).2.map SessionReport.answer =
      asked.map fun inquiry => (state.step vault source inquiry.step).2.answer := by
  induction asked generalizing state with
  | nil => rfl
  | cons inquiry later ih =>
      rw [List.map_cons, List.nodup_cons] at distinct
      rcases distinct with ⟨fresh, rest⟩
      simp only [List.map_cons, run_cons, ih rest, List.cons.injEq, true_and]
      apply List.map_congr_left
      intro next member
      have other : next.key ≠ inquiry.key :=
        fun same => fresh (same ▸ List.mem_map_of_mem member)
      exact (step_inquiry_behind other).1

theorem get?_run_inquiries_of_ne {name : String} (others : ∀ inquiry ∈ asked, name ≠ inquiry.key) :
    (run vault source state (asked.map Inquiry.step)).1.index.get? name =
      state.index.get? name := by
  induction asked generalizing state with
  | nil => rfl
  | cons inquiry later ih =>
      have rest : ∀ next ∈ later, name ≠ next.key :=
        fun next member => others next (List.mem_cons_of_mem _ member)
      rw [List.map_cons, run_cons, ih rest]
      exact Resolver.get?_resolve_of_ne (others inquiry List.mem_cons_self)

/-- Behind inquiries after different names, each has the entry that it leaves alone. -/
theorem get?_run_inquiries_of_mem (distinct : (asked.map Inquiry.key).Nodup) {inquiry : Inquiry}
    (member : inquiry ∈ asked) :
    (run vault source state (asked.map Inquiry.step)).1.index.get? inquiry.key =
      (state.step vault source inquiry.step).1.index.get? inquiry.key := by
  induction asked generalizing state with
  | nil => contradiction
  | cons first later ih =>
      rw [List.map_cons, List.nodup_cons] at distinct
      rcases distinct with ⟨fresh, rest⟩
      rw [List.map_cons, run_cons]
      rcases List.mem_cons.mp member with rfl | behind
      · apply get?_run_inquiries_of_ne
        intro next nextMember same
        exact fresh (same ▸ List.mem_map_of_mem nextMember)
      · have other : inquiry.key ≠ first.key :=
          fun same => fresh (same ▸ List.mem_map_of_mem behind)
        rw [ih rest behind]
        exact (step_inquiry_behind other).2

/-- The order of inquiries after different names does not matter to the state at the end. -/
theorem run_inquiries_perm {first second : List Inquiry}
    (distinct : (first.map Inquiry.key).Nodup) (reordered : first.Perm second) :
    (run vault source state (first.map Inquiry.step)).1 =
      (run vault source state (second.map Inquiry.step)).1 := by
  have distinct' := (reordered.map Inquiry.key).nodup distinct
  have sameIndex : ∀ name,
      (run vault source state (first.map Inquiry.step)).1.index.get? name =
        (run vault source state (second.map Inquiry.step)).1.index.get? name := by
    intro name
    by_cases wanted : ∃ inquiry ∈ first, name = inquiry.key
    · rcases wanted with ⟨inquiry, member, rfl⟩
      rw [get?_run_inquiries_of_mem distinct member,
        get?_run_inquiries_of_mem distinct' (reordered.mem_iff.mp member)]
    · have others : ∀ inquiry ∈ first, name ≠ inquiry.key :=
        fun inquiry member same => wanted ⟨inquiry, member, same⟩
      rw [get?_run_inquiries_of_ne others, get?_run_inquiries_of_ne fun inquiry member =>
        others inquiry (reordered.mem_iff.mpr member)]
  have sameHub :
      (run vault source state (first.map Inquiry.step)).1.responses =
        (run vault source state (second.map Inquiry.step)).1.responses := by
    rw [responses_run_inquiries, responses_run_inquiries]
  exact SessionState.ext (ModelIndex.ext (NameMap.ext_get? sameIndex)) sameHub

/--
Inquiries after names that are pairwise different in lower case get the same answers in any
order, each the one that it would get alone, and the session ends in the same state.
-/
theorem inquiries_in_any_order (vault : SecretVault)
    (source : NameMap Response → PresetSource) (state : SessionState)
    (first second : List Inquiry) (distinct : (first.map Inquiry.key).Nodup)
    (reordered : first.Perm second) :
    let alone := fun inquiry : Inquiry => (state.step vault source inquiry.step).2.answer
    let firstRun := run vault source state (first.map Inquiry.step)
    let secondRun := run vault source state (second.map Inquiry.step)
    firstRun.2.map SessionReport.answer = first.map alone ∧
      secondRun.2.map SessionReport.answer = second.map alone ∧ firstRun.1 = secondRun.1 := by
  intro alone firstRun secondRun
  have distinct' := (reordered.map Inquiry.key).nodup distinct
  exact ⟨answers_run_inquiries distinct, answers_run_inquiries distinct',
    run_inquiries_perm distinct reordered⟩

open SmallSession in
/-- A generated name, a known repository and an unknown name, asked for in either order. -/
theorem inquiries_in_any_order_reversed :
    let state := (run secretVault hubSource (initial NameMap.empty)
      [.register "falcon-7b" default, listed, configured]).1
    let asked : List Inquiry :=
      [⟨"Org/New-Model", "hf", ""⟩, ⟨"tiiuae/Falcon-7B", "", ""⟩, ⟨"unknown-model", "", ""⟩]
    (asked.map Inquiry.key).Nodup ∧ asked.Perm asked.reverse ∧
      (run secretVault hubSource state (asked.map Inquiry.step)).1 =
        (run secretVault hubSource state (asked.reverse.map Inquiry.step)).1 := by
  intro state asked
  have distinct : (asked.map Inquiry.key).Nodup := by decide +kernel
  have reordered : asked.Perm asked.reverse := (List.reverse_perm asked).symm
  rcases inquiries_in_any_order secretVault hubSource state asked asked.reverse
    distinct reordered with ⟨_, _, sameEnd⟩
  exact ⟨distinct, reordered, sameEnd⟩

end SessionState

end ServingPreset
