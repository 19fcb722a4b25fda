import Mathlib.Data.Option.Basic
import ServingPreset.Proofs.Launch

/-!
# What serving flags tell about a card

Every flag depends on one field of the card (`Launch.get?_toolCallParser` and its siblings),
because the flags have different names and none replaces another. A text that makes a flag
only when it is stated can be had back from its flag (`Launch.stated?_inj`), also behind the
directory of the templates. So equal flags mean equal fields, and all that the flags forget is
whether the default number format was stated or left out.
-/

namespace ServingPreset

namespace Launch

variable {left right : ModelCard} {text other : String}

/-! ### Stated texts -/

/-- A text, if it is stated. -/
def stated? (text : String) : Option String :=
  if text.isEmpty then none else some text

theorem stated?_inj : stated? text = stated? other ↔ text = other := by
  refine ⟨fun same => ?_, congrArg stated?⟩
  by_cases unstated : text = "" <;> by_cases otherUnstated : other = "" <;>
    simp_all [stated?]

theorem lookup_whenStated (text : String) (entries : List (String × String)) (name : String) :
    (whenStated text entries).lookup name =
      if text.isEmpty then none else entries.lookup name := by
  rw [whenStated]
  split <;> rfl

theorem lookup_cons_eq (entry : String × String) (rest : List (String × String))
    (name : String) :
    (entry :: rest).lookup name = if name = entry.1 then some entry.2 else rest.lookup name := by
  rw [List.lookup_cons]
  by_cases same : name = entry.1
  · simp [same]
  · simp [same, beq_false_of_ne same]

/-! ### One flag -/

theorem lookup_flagEntries (card : ModelCard) (name : String) :
    (flagEntries card).lookup name =
      (((([("trust-remote-code", ""), ("dtype", dtype card)].lookup name).or
        (if card.toolCallParser.isEmpty then none
          else [("tool-call-parser", card.toolCallParser),
            ("enable-auto-tool-choice", "")].lookup name)).or
        (if card.chatTemplate.isEmpty then none
          else [("chat-template", templateDirectory ++ card.chatTemplate)].lookup name)).or
        (if card.allowRemoteFiles then [("allow-remote-files", "")].lookup name else none)).or
        (if card.reasoningParser.isEmpty then none
          else [("reasoning-parser", card.reasoningParser)].lookup name) := by
  simp only [flagEntries, List.lookup_append, lookup_whenStated]
  cases card.allowRemoteFiles <;> rfl

theorem get?_trustRemoteCode (card : ModelCard) :
    (servingFlags card).get? "trust-remote-code" = some "" := by
  rw [get?_servingFlags]
  rfl

theorem get?_dtype (card : ModelCard) :
    (servingFlags card).get? "dtype" = some (dtype card) := by
  rw [get?_servingFlags]
  rfl

theorem get?_toolCallParser (card : ModelCard) :
    (servingFlags card).get? "tool-call-parser" = stated? card.toolCallParser := by
  simp [get?_servingFlags, lookup_flagEntries, lookup_cons_eq, stated?]

theorem get?_autoToolChoice (card : ModelCard) :
    (servingFlags card).get? "enable-auto-tool-choice" =
      (stated? card.toolCallParser).map fun _ => "" := by
  rw [get?_servingFlags, lookup_flagEntries, stated?]
  by_cases unstated : card.toolCallParser = "" <;> simp [unstated, lookup_cons_eq]

theorem get?_chatTemplate (card : ModelCard) :
    (servingFlags card).get? "chat-template" =
      (stated? card.chatTemplate).map (templateDirectory ++ ·) := by
  rw [get?_servingFlags, lookup_flagEntries, stated?]
  by_cases unstated : card.chatTemplate = "" <;> simp [unstated, lookup_cons_eq]

theorem get?_allowRemoteFiles (card : ModelCard) :
    (servingFlags card).get? "allow-remote-files" =
      if card.allowRemoteFiles then some "" else none := by
  simp [get?_servingFlags, lookup_flagEntries, lookup_cons_eq]

theorem get?_reasoningParser (card : ModelCard) :
    (servingFlags card).get? "reasoning-parser" = stated? card.reasoningParser := by
  simp [get?_servingFlags, lookup_flagEntries, lookup_cons_eq, stated?]

/-! ### All flags -/

theorem names_servingFlags_subset (card : ModelCard) :
    (servingFlags card).names ⊆ servingFlagNames := by
  intro name member
  rcases NameMap.mem_names_iff.mp member with ⟨value, found⟩
  by_contra unknown
  rw [get?_servingFlags_of_notMem card unknown] at found
  contradiction

/-- Two cards agree on all that their flags are made from. -/
structure ServeAlike (left right : ModelCard) : Prop where
  toolCallParser : left.toolCallParser = right.toolCallParser
  reasoningParser : left.reasoningParser = right.reasoningParser
  chatTemplate : left.chatTemplate = right.chatTemplate
  allowRemoteFiles : left.allowRemoteFiles = right.allowRemoteFiles
  /-- The number format that is served, be it stated or left out. -/
  dtype : dtype left = dtype right

theorem servingFlags_eq_of_serveAlike (alike : ServeAlike left right) :
    servingFlags left = servingFlags right := by
  rw [servingFlags, alike.toolCallParser, alike.reasoningParser, alike.chatTemplate,
    alike.allowRemoteFiles, alike.dtype]
  rfl

theorem serveAlike_of_servingFlags_eq (same : servingFlags left = servingFlags right) :
    ServeAlike left right := by
  have found (name : String) : (servingFlags left).get? name = (servingFlags right).get? name := by
    rw [same]
  constructor
  · have parser := found "tool-call-parser"
    rw [get?_toolCallParser, get?_toolCallParser] at parser
    exact stated?_inj.mp parser
  · have parser := found "reasoning-parser"
    rw [get?_reasoningParser, get?_reasoningParser] at parser
    exact stated?_inj.mp parser
  · have template := found "chat-template"
    rw [get?_chatTemplate, get?_chatTemplate] at template
    have prefixed : Function.Injective (templateDirectory ++ ·) := fun first second =>
      (String.append_right_inj templateDirectory).mp
    exact stated?_inj.mp (Option.map_injective prefixed template)
  · have switch := found "allow-remote-files"
    rw [get?_allowRemoteFiles, get?_allowRemoteFiles] at switch
    cases leftSwitch : left.allowRemoteFiles <;> cases rightSwitch : right.allowRemoteFiles <;>
      simp_all
  · have format := found "dtype"
    rw [get?_dtype, get?_dtype] at format
    exact Option.some.inj format

/--
Two cards have the same flags exactly if they agree on both parsers, the chat template, the
remote files and the number format that is served. Whatever the card says, its flags have only
known names, two of them are always there, and a parser of tool calls and the choice of tools
come together.
-/
theorem servingFlags_eq_iff :
    (∀ left right : ModelCard, servingFlags left = servingFlags right ↔
      left.toolCallParser = right.toolCallParser ∧
        left.reasoningParser = right.reasoningParser ∧
        left.chatTemplate = right.chatTemplate ∧
        left.allowRemoteFiles = right.allowRemoteFiles ∧
        (if left.dtype = "" then "bfloat16" else left.dtype) =
          (if right.dtype = "" then "bfloat16" else right.dtype)) ∧
    ∀ card : ModelCard,
      (servingFlags card).contains "trust-remote-code" = true ∧
        (servingFlags card).contains "dtype" = true ∧
        (servingFlags card).contains "enable-auto-tool-choice" =
          (servingFlags card).contains "tool-call-parser" ∧
        (servingFlags card).names ⊆ ["trust-remote-code", "dtype", "tool-call-parser",
          "enable-auto-tool-choice", "chat-template", "allow-remote-files", "reasoning-parser"] := by
  have format (card : ModelCard) :
      (if card.dtype = "" then "bfloat16" else card.dtype) = dtype card := by
    simp [dtype, defaultDtype]
  constructor
  · intro left right
    rw [format, format]
    constructor
    · intro same
      have alike := serveAlike_of_servingFlags_eq same
      exact ⟨alike.toolCallParser, alike.reasoningParser, alike.chatTemplate,
        alike.allowRemoteFiles, alike.dtype⟩
    · rintro ⟨toolCall, reasoning, template, remote, format⟩
      exact servingFlags_eq_of_serveAlike ⟨toolCall, reasoning, template, remote, format⟩
  · intro card
    refine ⟨?_, ?_, ?_, names_servingFlags_subset card⟩
    · rw [NameMap.contains, get?_trustRemoteCode]
      rfl
    · rw [NameMap.contains, get?_dtype]
      rfl
    · rw [NameMap.contains, NameMap.contains, get?_autoToolChoice, get?_toolCallParser,
        Option.isSome_map]

/-- The default number format is served alike whether it is stated or not. -/
example :
    servingFlags { name := "a", dtype := "bfloat16", chatTemplate := "t.jinja" } =
      servingFlags { name := "b", chatTemplate := "t.jinja" } := by
  decide +kernel

end Launch

end ServingPreset
