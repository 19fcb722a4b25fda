import ServingPreset.Launch
import ServingPreset.Proofs.NameMap
import ServingPreset.Weights

/-!
# Names of serving flags

The flags that follow from a card have seven names between them, whatever the card says, and
two of them are never missing (`notMem_requiredFlagNames`). The flags of a weight layout have
other names, so neither kind of flag replaces the other (`nodup_names_append_flags`).
-/

namespace ServingPreset

namespace Launch

/-- The names of all flags that a card can bring along. -/
def servingFlagNames : List String :=
  ["trust-remote-code", "dtype", "tool-call-parser", "enable-auto-tool-choice", "chat-template",
    "allow-remote-files", "reasoning-parser"]

theorem whenStated_sublist (text : String) (entries : List (String × String)) :
    (whenStated text entries).Sublist entries := by
  rw [whenStated]
  split
  · exact List.nil_sublist _
  · exact List.Sublist.refl _

theorem forall_mem_whenStated {Holds : String × String → Prop} {text : String}
    {entries : List (String × String)} (all : ∀ entry ∈ entries, Holds entry) :
    ∀ entry ∈ whenStated text entries, Holds entry :=
  fun entry stated => all entry ((whenStated_sublist text entries).subset stated)

/-- The flags of a card in the order in which they are collected. -/
def flagEntries (card : ModelCard) : List (String × String) :=
  [("trust-remote-code", ""), ("dtype", dtype card)] ++
    whenStated card.toolCallParser
      [("tool-call-parser", card.toolCallParser), ("enable-auto-tool-choice", "")] ++
    whenStated card.chatTemplate [("chat-template", templateDirectory ++ card.chatTemplate)] ++
    (if card.allowRemoteFiles then [("allow-remote-files", "")] else []) ++
    whenStated card.reasoningParser [("reasoning-parser", card.reasoningParser)]

theorem servingFlags_eq (card : ModelCard) :
    servingFlags card = NameMap.ofList (flagEntries card) := rfl

/-- The names of the flags are different, and in the same order for all cards. -/
theorem names_flagEntries_sublist (card : ModelCard) :
    ((flagEntries card).map Prod.fst).Sublist servingFlagNames := by
  have switch : (if card.allowRemoteFiles then [("allow-remote-files", "")] else []).Sublist
      [("allow-remote-files", "")] := by
    split
    · exact List.Sublist.refl _
    · exact List.nil_sublist _
  have required := List.Sublist.refl [("trust-remote-code", ""), ("dtype", dtype card)]
  have toolCall := required.append (whenStated_sublist card.toolCallParser
    [("tool-call-parser", card.toolCallParser), ("enable-auto-tool-choice", "")])
  have template := toolCall.append (whenStated_sublist card.chatTemplate
    [("chat-template", templateDirectory ++ card.chatTemplate)])
  have reasoning := (template.append switch).append (whenStated_sublist card.reasoningParser
    [("reasoning-parser", card.reasoningParser)])
  exact reasoning.map Prod.fst

theorem get?_servingFlags (card : ModelCard) (name : String) :
    (servingFlags card).get? name = (flagEntries card).lookup name := by
  rw [servingFlags_eq]
  exact NameMap.get?_ofList_of_nodup ((names_flagEntries_sublist card).nodup (by decide)) name

theorem get?_servingFlags_of_notMem (card : ModelCard) {name : String}
    (unknown : name ∉ servingFlagNames) : (servingFlags card).get? name = none := by
  refine (NameMap.get?_insertAll_of_notMem fun present => unknown ?_).trans
    (NameMap.get?_empty name)
  exact (names_flagEntries_sublist card).subset present

/-- Behind the flags of a layout, those of the card stand as before, and all beside each other. -/
theorem entries_insertAll_flags (card : ModelCard) (layout : WeightLayout) :
    ((servingFlags card).insertAll layout.flags).entries.Perm
      ((servingFlags card).entries ++ layout.flags) := by
  have unknown : ∀ name ∈ layout.flags.map Prod.fst, name ∉ servingFlagNames := by
    cases layout <;> decide
  have distinct : (layout.flags.map Prod.fst).Nodup := by
    cases layout <;> decide
  exact NameMap.entries_insertAll_perm distinct fun name member =>
    get?_servingFlags_of_notMem card (unknown name member)

theorem nodup_names_append_flags (card : ModelCard) (layout : WeightLayout) :
    ((servingFlags card).names ++ layout.flags.map Prod.fst).Nodup := by
  have sideBySide := (entries_insertAll_flags card layout).map Prod.fst
  rw [List.map_append] at sideBySide
  exact sideBySide.nodup ((servingFlags card).insertAll layout.flags).nodup_names

/-! ### Flags of every card -/

section Required

variable {card : ModelCard} {name : String}

/-- The flags that every card brings along. -/
def requiredFlags (card : ModelCard) : List (String × String) :=
  [("trust-remote-code", ""), ("dtype", dtype card)]

/-- The names of these flags, which are the same for all cards. -/
def requiredFlagNames : List String :=
  ["trust-remote-code", "dtype"]

theorem names_requiredFlags (card : ModelCard) :
    (requiredFlags card).map Prod.fst = requiredFlagNames := rfl

theorem exists_servingFlags_eq (card : ModelCard) :
    ∃ stated, servingFlags card = (NameMap.ofList (requiredFlags card)).insertAll stated := by
  simp only [servingFlags, NameMap.ofList, List.append_assoc]
  exact ⟨_, NameMap.insertAll_append _ (requiredFlags card) _⟩

theorem notMem_requiredFlagNames (missing : (servingFlags card).get? name = none) :
    name ∉ requiredFlagNames := by
  rw [← names_requiredFlags card]
  intro required
  rcases List.mem_map.mp required with ⟨⟨_, value⟩, member, rfl⟩
  have distinct : ((requiredFlags card).map Prod.fst).Nodup := by
    rw [names_requiredFlags]
    decide
  have written : (NameMap.ofList (requiredFlags card)).get? _ = some value :=
    NameMap.get?_insertAll_of_mem distinct member
  rcases exists_servingFlags_eq card with ⟨stated, flags⟩
  rw [flags] at missing
  rw [NameMap.get?_eq_none_of_insertAll missing] at written
  contradiction

end Required

end Launch

end ServingPreset
