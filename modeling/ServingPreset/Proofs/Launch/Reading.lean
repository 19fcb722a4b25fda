import ServingPreset.Proofs.Generation.Serving
import ServingPreset.Proofs.Text.ByteOrder
import ServingPreset.Proofs.Text.Cut

/-!
# Reading command lines

A command line can be taken apart again. Every flag is a word of its own behind a space, and
the first `=` of a word stands between the name and the value (`Launch.ofWord?_word`), as long
as names have neither spaces nor `=` and values have no spaces. Values may have `=` as well.
The flags of generated presets are of this kind: their names are fixed, and their values come
from fixed tables.
-/

namespace ServingPreset

namespace Launch

variable {base name value : String} {flag : String × String} {flags left right : NameMap String}

/-! ### One flag -/

/-- A flag that can be told apart on a command line. -/
structure IsPlain (flag : String × String) : Prop where
  nameSpaceless : ' ' ∉ flag.1.toList
  nameUncut : '=' ∉ flag.1.toList
  valueSpaceless : ' ' ∉ flag.2.toList

instance (flag : String × String) : Decidable (IsPlain flag) :=
  decidable_of_iff (' ' ∉ flag.1.toList ∧ '=' ∉ flag.1.toList ∧ ' ' ∉ flag.2.toList)
    ⟨fun ⟨nameSpaceless, nameUncut, valueSpaceless⟩ => ⟨nameSpaceless, nameUncut, valueSpaceless⟩,
      fun plain => ⟨plain.nameSpaceless, plain.nameUncut, plain.valueSpaceless⟩⟩

/-- The word of a flag. -/
def word (flag : String × String) : String :=
  if flag.2.isEmpty then "--" ++ flag.1 else "--" ++ flag.1 ++ "=" ++ flag.2

/-- The flag of a word, which has its value behind the first `=`, or an empty one. -/
def ofWord? (word : String) : Option (String × String) :=
  match word.toList with
  | '-' :: '-' :: rest =>
      some (String.ofList (Text.beforeFirst '=' rest),
        String.ofList ((Text.afterFirst? '=' rest).getD []))
  | _ => none

theorem flagText_eq (name value : String) : flagText name value = " " ++ word (name, value) := by
  rw [flagText, word]
  split
  · rfl
  · rfl

theorem toList_word (flag : String × String) :
    (word flag).toList = '-' :: '-' :: (flag.1.toList ++
      if flag.2 = "" then [] else '=' :: flag.2.toList) := by
  by_cases switch : flag.2 = ""
  · simp [word, switch]
  · simp [word, switch]

theorem ofWord?_eq_some {rest : List Char} {spelled : String}
    (marked : spelled.toList = '-' :: '-' :: rest) :
    ofWord? spelled = some (String.ofList (Text.beforeFirst '=' rest),
      String.ofList ((Text.afterFirst? '=' rest).getD [])) := by
  rw [ofWord?, marked]
  rfl

/-- A flag is read back from its word, whether it is a switch or has a value. -/
theorem ofWord?_word (plain : IsPlain flag) : ofWord? (word flag) = some flag := by
  have uncut := plain.nameUncut
  rw [ofWord?_eq_some (toList_word flag)]
  by_cases switch : flag.2 = ""
  · rw [if_pos switch, List.append_nil, Text.beforeFirst_eq_self uncut,
      Text.afterFirst?_eq_none uncut, String.ofList_toList]
    exact congrArg some (Prod.ext rfl switch.symm)
  · rw [if_neg switch, Text.beforeFirst_append uncut, Text.afterFirst?_append uncut,
      Option.getD_some, String.ofList_toList, String.ofList_toList]

theorem spaceless_word (plain : IsPlain flag) : ' ' ∉ (word flag).toList := by
  have nameSpaceless := plain.nameSpaceless
  have valueSpaceless := plain.valueSpaceless
  rw [toList_word]
  split <;> simp [nameSpaceless, valueSpaceless]

/-! ### All flags -/

/-- The words of flags in the order of their names. -/
def words (flags : NameMap String) : List String :=
  flags.entries.map word

theorem toList_commandLine (base : String) (flags : NameMap String) :
    (commandLine base flags).toList =
      base.toList ++ ((words flags).map String.toList).flatMap (' ' :: ·) := by
  rw [commandLine, words]
  generalize flags.entries = entries
  induction entries generalizing base with
  | nil => simp
  | cons flag later ih =>
      rw [List.foldl_cons, ih, flagText_eq]
      simp

theorem spaceless_of_mem_words (plain : ∀ flag ∈ flags.entries, IsPlain flag) {spelled : String}
    (member : spelled ∈ words flags) : ' ' ∉ spelled.toList := by
  rcases List.mem_map.mp member with ⟨flag, listed, rfl⟩
  exact spaceless_word (plain flag listed)

theorem map_ofWord?_words (plain : ∀ flag ∈ flags.entries, IsPlain flag) :
    (words flags).map ofWord? = flags.entries.map some := by
  rw [words, List.map_map]
  exact List.map_congr_left fun flag listed => ofWord?_word (plain flag listed)

/-- The flags that stand behind the base of a command line. -/
def flagsBehind (base command : String) : NameMap String :=
  let segments := Text.segments ' ' (command.toList.drop base.toList.length)
  NameMap.ofList ((segments.tail.map String.ofList).filterMap ofWord?)

/-- The flags of a command line are read back from it. -/
theorem flagsBehind_commandLine (base : String) (plain : ∀ flag ∈ flags.entries, IsPlain flag) :
    flagsBehind base (commandLine base flags) = flags := by
  have spaceless : ∀ part ∈ (words flags).map String.toList, ' ' ∉ part := by
    simp only [List.forall_mem_map]
    exact fun spelled => spaceless_of_mem_words plain
  have spelled : ((words flags).map String.toList).map String.ofList = words flags := by
    simp
  have read : (words flags).filterMap ofWord? = flags.entries := by
    have same := congrArg (List.filterMap id) (map_ofWord?_words plain)
    simpa [List.filterMap_map] using same
  rw [flagsBehind, toList_commandLine, List.drop_left, Text.segments_flatMap_cons spaceless,
    List.tail_cons, spelled, read, NameMap.ofList_entries]

theorem commandLine_inj (leftPlain : ∀ flag ∈ left.entries, IsPlain flag)
    (rightPlain : ∀ flag ∈ right.entries, IsPlain flag) :
    commandLine base left = commandLine base right ↔ left = right := by
  constructor
  · intro same
    rw [← flagsBehind_commandLine base leftPlain, same, flagsBehind_commandLine base rightPlain]
  · rintro rfl
    rfl

/-! ### Flags of a card -/

theorem isPlain_of_name (known : name ∈ servingFlagNames) (spaceless : ' ' ∉ value.toList) :
    IsPlain (name, value) := by
  have plainNames : ∀ name ∈ servingFlagNames, IsPlain (name, "") := by decide
  have plain := plainNames name known
  exact ⟨plain.nameSpaceless, plain.nameUncut, spaceless⟩

theorem isPlain_of_mem_servingFlags {card : ModelCard} (dtypeSpaceless : ' ' ∉ card.dtype.toList)
    (toolCallSpaceless : ' ' ∉ card.toolCallParser.toList)
    (templateSpaceless : ' ' ∉ card.chatTemplate.toList)
    (reasoningSpaceless : ' ' ∉ card.reasoningParser.toList) :
    ∀ flag ∈ (servingFlags card).entries, IsPlain flag := by
  have format : ' ' ∉ (dtype card).toList := by
    rw [dtype]
    split
    · decide
    · exact dtypeSpaceless
  have template : ' ' ∉ (templateDirectory ++ card.chatTemplate).toList := by
    rw [String.toList_append, List.mem_append, not_or]
    exact ⟨by decide, templateSpaceless⟩
  rw [servingFlags]
  apply NameMap.forall_mem_ofList
  simp only [List.forall_mem_append]
  refine ⟨⟨⟨⟨?_, forall_mem_whenStated ?_⟩, forall_mem_whenStated ?_⟩, ?_⟩,
    forall_mem_whenStated ?_⟩
  · simp only [List.forall_mem_cons]
    exact ⟨by decide, isPlain_of_name (by decide) format, List.forall_mem_nil _⟩
  · simp only [List.forall_mem_cons]
    exact ⟨isPlain_of_name (by decide) toolCallSpaceless, by decide, List.forall_mem_nil _⟩
  · simp only [List.forall_mem_cons]
    exact ⟨isPlain_of_name (by decide) template, List.forall_mem_nil _⟩
  · split <;> decide
  · simp only [List.forall_mem_cons]
    exact ⟨isPlain_of_name (by decide) reasoningSpaceless, List.forall_mem_nil _⟩

end Launch

namespace OutputParser

theorem spaceless_getD_select {table : List Row} (spaceless : ∀ row ∈ table, ' ' ∉ row.2.toList)
    (modelName : String) : ' ' ∉ ((select table modelName).getD "").toList := by
  cases selected : select table modelName with
  | none => simp
  | some parser =>
      rcases select_eq_some_iff.mp selected with ⟨row, longest, _, rfl⟩
      exact spaceless row longest.listed

end OutputParser

namespace Generation

variable {hub : Hub} {repository : Repository} {preset : Preset}

/-- All flags of a generated preset can be told apart. -/
theorem isPlain_of_generated (generated : (run hub repository).result = .ok preset) :
    ∀ flag ∈ preset.launch.flags.entries, Launch.IsPlain flag := by
  rcases exists_assembled_of_run generated with ⟨weights, config, _, _, assembled⟩
  have layoutFlags : ∀ flag ∈ weights.layout.flags, Launch.IsPlain flag := by
    cases weights.layout <;> decide
  have cardFlags : ∀ flag ∈ (Launch.servingFlags preset.card).entries, Launch.IsPlain flag := by
    rcases assembled.exists_card_eq with ⟨size, disk, bytes, card⟩
    have unstated : ' ' ∉ "".toList := by decide
    rw [card]
    apply Launch.isPlain_of_mem_servingFlags
    · exact unstated
    · exact OutputParser.spaceless_getD_select (by decide) _
    · exact unstated
    · exact OutputParser.spaceless_getD_select (by decide) _
  intro flag member
  rw [assembled.launched] at member
  rcases NameMap.mem_entries_insertAll member with added | before
  · exact layoutFlags flag added
  · exact cardFlags flag before

end Generation

namespace Launch

/--
Behind its base, a command line has one word for each flag, in the order of the bytes of the
names and with one space before each, and a word is read back as its flag. So two command
lines with one base are equal only if their flags are. What is asked of the flags holds of
every generated preset, whose flags are read back from the command line of its model.
-/
theorem commandLine_lossless :
    (∀ (base : String) (flags : NameMap String), (∀ flag ∈ flags.entries, IsPlain flag) →
      (∃ words : List String,
        (commandLine base flags).toList =
          base.toList ++ (words.map String.toList).flatMap (' ' :: ·) ∧
        (∀ spelled ∈ words, ' ' ∉ spelled.toList) ∧
        words.map ofWord? = flags.entries.map some) ∧
      flags.entries.Pairwise (fun earlier later => Text.bytes earlier.1 < Text.bytes later.1) ∧
      flagsBehind base (commandLine base flags) = flags) ∧
    (∀ (base : String) (left right : NameMap String), (∀ flag ∈ left.entries, IsPlain flag) →
      (∀ flag ∈ right.entries, IsPlain flag) →
        (commandLine base left = commandLine base right ↔ left = right)) ∧
    ∀ (hub : Hub) (repository : Repository) (preset : Preset),
      (Generation.run hub repository).result = .ok preset →
        (∀ flag ∈ preset.launch.flags.entries, IsPlain flag) ∧
          flagsBehind preset.launch.baseCommand (ServedModel.ofPreset preset).commandLine =
            preset.launch.flags := by
  refine ⟨?_, fun _ _ _ => commandLine_inj, ?_⟩
  · intro base flags plain
    refine ⟨⟨words flags, toList_commandLine base flags, ?_, map_ofWord?_words plain⟩, ?_,
      flagsBehind_commandLine base plain⟩
    · exact fun spelled => spaceless_of_mem_words plain
    · exact flags.sorted.imp Text.bytes_lt_of_lt
  · intro hub repository preset generated
    have plain := Generation.isPlain_of_generated generated
    rcases Generation.exists_assembled_of_run generated with ⟨weights, config, _, _, assembled⟩
    refine ⟨plain, ?_⟩
    rw [ServedModel.commandLine, assembled.inference_launch]
    exact flagsBehind_commandLine _ plain

open SmallHub in
/-- Flags with dashes in the name, with `=` in the value, or without a name are read back. -/
theorem commandLine_lossless_dashes :
    let flags := NameMap.ofList [("dtype", "=--a=b"), ("--k", ""), ("", "x")]
    let others := NameMap.ofList [("dtype", "=--a"), ("--k", ""), ("", "x")]
    ((∀ flag ∈ flags.entries, IsPlain flag) ∧ ∀ flag ∈ others.entries, IsPlain flag) ∧
      commandLine "run it" flags = "run it --=x ----k --dtype==--a=b" ∧
      flagsBehind "run it" (commandLine "run it" flags) = flags ∧
      commandLine "run it" flags ≠ commandLine "run it" others ∧
      ∃ preset, (Generation.run tokenHub ⟨"org/Qwen3-Open"⟩).result = .ok preset ∧
        flagsBehind preset.launch.baseCommand (ServedModel.ofPreset preset).commandLine =
          preset.launch.flags := by
  intro flags others
  rcases commandLine_lossless with ⟨lossless, injective, generates⟩
  have plain : ∀ flag ∈ flags.entries, IsPlain flag := by decide +kernel
  have othersPlain : ∀ flag ∈ others.entries, IsPlain flag := by decide +kernel
  have succeeds : (Generation.run tokenHub ⟨"org/Qwen3-Open"⟩).result.isOk = true := by
    decide +kernel
  rcases Generation.exists_of_isOk succeeds with ⟨preset, generated⟩
  refine ⟨⟨plain, othersPlain⟩, by decide +kernel, (lossless "run it" flags plain).2.2, ?_,
    preset, generated, (generates _ _ preset generated).2⟩
  intro same
  have equal := (injective "run it" flags others plain othersPlain).mp same
  exact absurd equal (by decide +kernel)

end Launch

end ServingPreset
