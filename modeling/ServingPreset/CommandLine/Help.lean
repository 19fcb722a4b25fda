import ServingPreset.Number.DecimalText
import ServingPreset.Settings
import ServingPreset.Text.Visible

/-!
# The help of the command line

What the command is for and what its arguments mean. The arguments stand in two sections
of two columns: how an argument is written, and what is said about it.
-/

namespace ServingPreset

namespace CommandLine

/-- How the command is used. -/
def usage : String :=
  "Usage: presetgen [OPTIONS] <MODEL_REPO>\n"

/-- The environment variable that names the hub. -/
def endpointVariable : String := "HF_ENDPOINT"

/-- A row of the help. -/
structure HelpRow where
  form : String
  /-- What is said about it. -/
  account : String
deriving DecidableEq, Repr, Inhabited

/-- The rows for the arguments that stand alone. -/
def operandRows : List HelpRow :=
  [⟨"  <MODEL_REPO>", "Model repository, e.g. Qwen/Qwen3-8B"⟩]

/-- The rows for the options; the hub that the environment names is shown among them. -/
def optionRows (environment : String → Option String) : List HelpRow :=
  let base : Settings := {}
  [⟨"      --token <TOKEN>", "Hub API token (falls back to $HF_TOKEN) [default: \"\"]"⟩,
    ⟨"      --endpoint <ENDPOINT>", "Hub endpoint [env: " ++ endpointVariable ++ "=" ++
      (environment endpointVariable).getD "" ++ "] [default: " ++ base.baseUrl ++ "]"⟩,
    ⟨"      --timeout <TIMEOUT>", "Per-request timeout in seconds [default: " ++
      DecimalText.render base.timeoutSeconds.toNat ++ "]"⟩,
    ⟨"  -h, --help", "Print help"⟩,
    ⟨"  -V, --version", "Print version"⟩]

/-- A row whose second column begins at `column`, also on further lines. -/
def HelpRow.render (column : Nat) (row : HelpRow) : List Char :=
  let gap := List.replicate (column - row.form.length) ' '
  let account := row.account.toList.flatMap fun char =>
    if char = '\n' then '\n' :: List.replicate column ' ' else [char]
  row.form.toList ++ gap ++ account ++ ['\n']

/-- A section: its second column begins two spaces behind the longest first one. -/
def helpSection (title : String) (rows : List HelpRow) : List Char :=
  let column := (rows.map (·.form.length)).foldl max 0 + 2
  title.toList ++ ":\n".toList ++ rows.flatMap (HelpRow.render column)

/-- The help, of which control characters in the environment are no part. -/
def help (environment : String → Option String) : String :=
  String.ofList (Text.visible
    ("Print the preset of a hub model as YAML\n\n".toList ++ usage.toList ++ ['\n'] ++
      helpSection "Arguments" operandRows ++ ['\n'] ++
      helpSection "Options" (optionRows environment)))

end CommandLine

end ServingPreset
