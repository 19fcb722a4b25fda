import ServingPreset.Preset.Basic

/-!
# Serving flags and launch commands

The flags that follow from the card of a model, and the command line that a set of
flags spells: each flag in name order, a switch by its name alone.
-/

namespace ServingPreset

namespace Launch

/-- The command that starts the runtime. -/
def command : String := "python3 /workspace/vllm/inference_api.py"

/-- The command that starts the leader of a group of machines. -/
def leaderCommand : String := "/workspace/vllm/multi-node-serving.sh leader"

/-- The command that starts a worker of a group of machines. -/
def workerCommand : String := "/workspace/vllm/multi-node-serving.sh worker"

/-- The directory of the chat templates. -/
def templateDirectory : String := "/workspace/chat_templates/"

/-- The number format of a model that states none. -/
def defaultDtype : String := "bfloat16"

/-- The number format that a model is served in. -/
def dtype (card : ModelCard) : String :=
  if card.dtype.isEmpty then defaultDtype else card.dtype

/-- Entries that only a stated text brings along. -/
def whenStated (text : String) (entries : List (String × String)) : List (String × String) :=
  if text.isEmpty then [] else entries

/-- The flags that a model is served with. -/
def servingFlags (card : ModelCard) : NameMap String :=
  NameMap.ofList <|
    [("trust-remote-code", ""), ("dtype", dtype card)] ++
    whenStated card.toolCallParser
      [("tool-call-parser", card.toolCallParser), ("enable-auto-tool-choice", "")] ++
    whenStated card.chatTemplate [("chat-template", templateDirectory ++ card.chatTemplate)] ++
    (if card.allowRemoteFiles then [("allow-remote-files", "")] else []) ++
    whenStated card.reasoningParser [("reasoning-parser", card.reasoningParser)]

/-- A flag as it stands on the command line. -/
def flagText (name value : String) : String :=
  if value.isEmpty then " --" ++ name else " --" ++ name ++ "=" ++ value

/-- A command followed by its flags. -/
def commandLine (base : String) (flags : NameMap String) : String :=
  flags.entries.foldl (fun command flag => command ++ flagText flag.1 flag.2) base

end Launch

end ServingPreset
