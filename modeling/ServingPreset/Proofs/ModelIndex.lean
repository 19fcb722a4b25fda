import ServingPreset.ModelIndex
import ServingPreset.Proofs.NameMap
import ServingPreset.Proofs.Text.ByteOrder

/-!
# Calls on an index

An index is used by calls, which register a model or read what is registered. Only
registrations change it, and only under the name that they give: so a lookup finds the model
of the last registration under the name (`ModelIndex.get?_afterCalls_eq_some_iff`), and all
other reads say what the lookups say. Names are listed in the order of their bytes, in
whatever order a store hands them out.
-/

namespace ServingPreset

/-- A call on an index. -/
inductive IndexCall where
  | register (name : String) (model : ServedModel)
  | get (name : String)
  | has (name : String)
  | names
  | count

namespace IndexCall

/-- Whether the call asks for a registration. -/
def isRegistration : IndexCall → Bool
  | register _ _ => true
  | _ => false

end IndexCall

/-- What a call gives back. -/
inductive IndexReply where
  | registered
  | stopped (fault : Fault)
  | model (found : Option ServedModel)
  | flag (present : Bool)
  | names (listing : List String)
  | count (number : Nat)
deriving DecidableEq

namespace ModelIndex

variable {index : ModelIndex} {calls : List IndexCall} {name : String} {model : ServedModel}

/-- Make one call. A registration that stops leaves the index as it was. -/
def call (index : ModelIndex) : IndexCall → ModelIndex × IndexReply
  | .register name model =>
      match index.register name model with
      | .ok grown => (grown, .registered)
      | .error fault => (index, .stopped fault)
  | .get name => (index, .model (index.get? name))
  | .has name => (index, .flag (index.has name))
  | .names => (index, .names index.names)
  | .count => (index, .count index.count)

/-- The index after calls that are made one after the other. -/
def afterCalls (index : ModelIndex) : List IndexCall → ModelIndex
  | [] => index
  | next :: later => afterCalls (index.call next).1 later

/-! ### One call -/

theorem call_register_empty (index : ModelIndex) (model : ServedModel) :
    index.call (.register "" model) = (index, .stopped .unnamedModel) := rfl

theorem call_register (index : ModelIndex) (model : ServedModel) (named : name ≠ "") :
    index.call (.register name model) = (⟨index.models.insert name model⟩, .registered) := by
  simp [call, register, named]

theorem call_register_eq_registered_iff :
    (index.call (.register name model)).2 = .registered ↔ name ≠ "" := by
  by_cases named : name = ""
  · subst named
    simp [call_register_empty]
  · simp [call_register index model named, named]

theorem call_of_read {next : IndexCall} (reads : next.isRegistration = false) :
    (index.call next).1 = index := by
  cases next with
  | register name model => contradiction
  | _ => rfl

theorem get?_call_register (named : name ≠ "") :
    (index.call (.register name model)).1.get? name = some model := by
  rw [call_register index model named]
  exact NameMap.get?_insert_self _ _ _

/-- A call leaves alone what stands under names that it does not register. -/
theorem get?_call_of_ne {next : IndexCall} (other : ∀ model, next ≠ .register name model) :
    (index.call next).1.get? name = index.get? name := by
  cases next with
  | register written model =>
      have apart : name ≠ written := by
        rintro rfl
        exact other model rfl
      by_cases named : written = ""
      · subst named
        rw [call_register_empty]
      · rw [call_register index model named]
        exact NameMap.get?_insert_of_ne _ _ apart
  | _ => rfl

/-- Nothing comes to stand under the empty name. -/
theorem get?_empty_call (next : IndexCall) : (index.call next).1.get? "" = index.get? "" := by
  by_cases unnamed : ∃ model, next = .register "" model
  · rcases unnamed with ⟨model, rfl⟩
    rw [call_register_empty]
  · exact get?_call_of_ne fun model same => unnamed ⟨model, same⟩

/-! ### Calls one after the other -/

theorem afterCalls_append (index : ModelIndex) (earlier later : List IndexCall) :
    index.afterCalls (earlier ++ later) = (index.afterCalls earlier).afterCalls later := by
  induction earlier generalizing index with
  | nil => rfl
  | cons next earlier ih => exact ih _

/-- Reads leave no trace in the index. -/
theorem afterCalls_filter (index : ModelIndex) (calls : List IndexCall) :
    index.afterCalls (calls.filter IndexCall.isRegistration) = index.afterCalls calls := by
  induction calls generalizing index with
  | nil => rfl
  | cons next later ih =>
      cases writes : next.isRegistration with
      | true =>
          rw [List.filter_cons_of_pos writes]
          exact ih _
      | false =>
          rw [List.filter_cons_of_neg (by simp [writes]), ih, afterCalls, call_of_read writes]

theorem get?_empty_afterCalls (index : ModelIndex) (calls : List IndexCall) :
    (index.afterCalls calls).get? "" = index.get? "" := by
  induction calls generalizing index with
  | nil => rfl
  | cons next later ih => exact (ih _).trans (get?_empty_call next)

theorem get?_afterCalls_of_unregistered
    (unregistered : ∀ model, .register name model ∉ calls) :
    (index.afterCalls calls).get? name = index.get? name := by
  induction calls generalizing index with
  | nil => rfl
  | cons next later ih =>
      have other : ∀ model, next ≠ .register name model := by
        rintro model rfl
        exact unregistered model List.mem_cons_self
      have behind : ∀ model, .register name model ∉ later :=
        fun model member => unregistered model (List.mem_cons_of_mem _ member)
      exact (ih behind).trans (get?_call_of_ne other)

/-- The model is what the last of the calls that register the name gives it. -/
def LastRegistered (calls : List IndexCall) (name : String) (model : ServedModel) : Prop :=
  ∃ earlier later, calls = earlier ++ .register name model :: later ∧
    ∀ other, .register name other ∉ later

theorem exists_lastRegistered (registered : ∃ model, .register name model ∈ calls) :
    ∃ model, LastRegistered calls name model := by
  induction calls with
  | nil =>
      rcases registered with ⟨model, member⟩
      contradiction
  | cons next later ih =>
      by_cases again : ∃ model, .register name model ∈ later
      · rcases ih again with ⟨model, earlier, rest, rfl, last⟩
        exact ⟨model, next :: earlier, rest, rfl, last⟩
      · rcases registered with ⟨model, member⟩
        rcases List.mem_cons.mp member with rfl | behind
        · exact ⟨model, [], later, rfl, fun other found => again ⟨other, found⟩⟩
        · exact absurd ⟨model, behind⟩ again

theorem get?_afterCalls_of_lastRegistered (named : name ≠ "")
    (last : LastRegistered calls name model) :
    (index.afterCalls calls).get? name = some model := by
  rcases last with ⟨earlier, later, rfl, unregistered⟩
  rw [afterCalls_append, afterCalls, get?_afterCalls_of_unregistered unregistered,
    get?_call_register named]

/-! ### Calls on a fresh index -/

theorem get?_afterCalls_eq_none_iff :
    (empty.afterCalls calls).get? name = none ↔
      name = "" ∨ ∀ model, .register name model ∉ calls := by
  constructor
  · intro missing
    by_contra! registered
    rcases exists_lastRegistered registered.2 with ⟨model, last⟩
    rw [get?_afterCalls_of_lastRegistered registered.1 last] at missing
    contradiction
  · rintro (rfl | unregistered)
    · exact get?_empty_afterCalls empty calls
    · exact get?_afterCalls_of_unregistered unregistered

theorem get?_afterCalls_eq_some_iff :
    (empty.afterCalls calls).get? name = some model ↔
      name ≠ "" ∧ LastRegistered calls name model := by
  constructor
  · intro found
    have present : ¬(name = "" ∨ ∀ model, .register name model ∉ calls) := by
      rw [← get?_afterCalls_eq_none_iff, found]
      simp
    push Not at present
    rcases exists_lastRegistered present.2 with ⟨last, registered⟩
    rw [get?_afterCalls_of_lastRegistered present.1 registered] at found
    cases found
    exact ⟨present.1, registered⟩
  · rintro ⟨named, last⟩
    exact get?_afterCalls_of_lastRegistered named last

/-! ### Listed names -/

theorem has_eq_true_iff : index.has name = true ↔ ∃ model, index.get? name = some model :=
  Option.isSome_iff_exists

theorem mem_names_iff_has : name ∈ index.names ↔ index.has name = true :=
  NameMap.mem_names_iff.trans has_eq_true_iff.symm

theorem pairwise_names (index : ModelIndex) :
    index.names.Pairwise fun left right => left < right :=
  List.pairwise_map.mpr index.models.sorted

theorem length_names (index : ModelIndex) : index.names.length = index.count :=
  List.length_map _

/-- Names are listed like this in whatever order they were stored, if they are sorted then. -/
theorem mergeSort_of_perm_names {stored : List String} (perm : stored.Perm index.names) :
    stored.mergeSort (fun left right => left ≤ right) = index.names := by
  have inOrder : (stored.mergeSort fun left right => left ≤ right).Pairwise
      fun left right => left ≤ right := by
    refine (List.pairwise_mergeSort ?_ ?_ stored).imp of_decide_eq_true
    · intro left middle right first second
      exact decide_eq_true (String.le_trans (of_decide_eq_true first) (of_decide_eq_true second))
    · intro left right
      rw [Bool.or_eq_true, decide_eq_true_iff, decide_eq_true_iff]
      exact String.le_total left right
  have listed : index.names.Pairwise fun left right => left ≤ right :=
    index.pairwise_names.imp fun below => String.not_lt.mp (String.lt_asymm below)
  refine List.Perm.eq_of_pairwise ?_ inOrder listed ((List.mergeSort_perm stored _).trans perm)
  intro left right _ _ below above
  exact String.le_antisymm below above

/--
After any calls on a fresh index, a lookup gives the model of the last registration under the
name, and a name is registered if and only if it is listed. The list is in the order of the
bytes, without the empty name, under which nothing can be registered. All of this depends on
the registrations among the calls alone.
-/
theorem replies_after_calls (calls : List IndexCall) :
    let index := empty.afterCalls calls
    (∀ name model, (index.call (.get name)).2 = .model (some model) ↔
      name ≠ "" ∧ LastRegistered calls name model) ∧
    (∀ name, (index.call (.get name)).2 = .model none ↔
      name = "" ∨ ∀ model, .register name model ∉ calls) ∧
    (∀ name, (index.call (.has name)).2 = .flag true ↔
      ∃ model, (index.call (.get name)).2 = .model (some model)) ∧
    (∃ listing, (index.call .names).2 = .names listing ∧
      (index.call .count).2 = .count listing.length ∧
      (∀ name, name ∈ listing ↔ (index.call (.has name)).2 = .flag true) ∧
      listing.Pairwise (fun left right => Text.bytes left < Text.bytes right) ∧ "" ∉ listing ∧
      ∀ stored : List String, stored.Perm listing →
        stored.mergeSort (fun left right => left ≤ right) = listing) ∧
    (∀ model, index.call (.register "" model) = (index, .stopped .unnamedModel)) ∧
    (∀ name model, (index.call (.register name model)).2 = .registered ↔ name ≠ "") ∧
    empty.afterCalls (calls.filter IndexCall.isRegistration) = index := by
  intro index
  have unnamed : "" ∉ index.names := by
    rw [mem_names_iff_has, has_eq_true_iff]
    rintro ⟨model, found⟩
    exact (get?_afterCalls_eq_some_iff.mp found).1 rfl
  simp only [call, IndexReply.model.injEq, IndexReply.flag.injEq]
  refine ⟨fun _ _ => get?_afterCalls_eq_some_iff, fun _ => get?_afterCalls_eq_none_iff,
    fun _ => has_eq_true_iff, ?_, call_register_empty index,
    fun _ _ => call_register_eq_registered_iff, afterCalls_filter empty calls⟩
  refine ⟨index.names, rfl, ?_, fun _ => mem_names_iff_has, ?_, unnamed,
    fun _ => mergeSort_of_perm_names⟩
  · rw [length_names]
  · exact index.pairwise_names.imp Text.bytes_lt_of_lt

/-- A model is replaced, another has no name, and a third is listed before the first. -/
theorem replies_after_calls_replaced :
    let other := ServedModel.ofCard { name := "other" } .unknown
    let index := empty.afterCalls [.register "b" default, .names, .register "" other,
      .register "a" default, .register "b" other, .has "a"]
    (index.call (.get "b")).2 = .model (some other) ∧ (index.call (.get "c")).2 = .model none ∧
      (index.call .names).2 = .names ["a", "b"] ∧
      ["b", "a"].mergeSort (fun left right => left ≤ right) = ["a", "b"] := by
  intro other index
  rcases replies_after_calls [.register "b" default, .names, .register "" other,
    .register "a" default, .register "b" other, .has "a"] with
    ⟨found, missing, _, ⟨listing, listed, _, _, _, _, sorted⟩, _⟩
  have names : (index.call .names).2 = .names ["a", "b"] := by decide +kernel
  have same : listing = ["a", "b"] := IndexReply.names.inj (listed.symm.trans names)
  rw [same] at sorted
  refine ⟨?_, ?_, names, sorted ["b", "a"] (List.Perm.swap _ _ _)⟩
  · apply (found "b" other).mpr
    refine ⟨by decide, [.register "b" default, .names, .register "" other, .register "a" default],
      [.has "a"], rfl, ?_⟩
    simp
  · apply (missing "c").mpr
    simp

end ModelIndex

end ServingPreset
