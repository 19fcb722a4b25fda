import ServingPreset.Yaml.Scalar

/-!
# YAML in block style

Documents of nested mappings and lists of texts. A nested mapping is indented by one
step, the items of a list stand where their key stands, and an empty list is written
in brackets. Keys are written as they are: they have to be plain words.
-/

namespace ServingPreset

namespace Yaml

/-- A node of a document. -/
inductive Node where
  | text (value : String)
  | truth (value : Bool)
  | number (value : Nat)
  | texts (items : List String)
  | mapping (entries : List (String × Node))
deriving Repr, Inhabited

/-- The items of a list, each behind a dash. -/
def listItems (indent : Nat) (items : List String) : List Char :=
  items.flatMap fun item =>
    margin indent ++ ['-', ' '] ++ scalar (indent + indentStep) item

mutual

/-- A node behind its key, which stands at an indentation; ends with its last line. -/
def entryValue (indent : Nat) : Node → List Char
  | .text value => ' ' :: scalar (indent + indentStep) value
  | .truth value => ' ' :: (if value then "true" else "false").toList ++ ['\n']
  | .number value => ' ' :: (DecimalText.render value).toList ++ ['\n']
  | .texts items =>
      if items.isEmpty then [' ', '[', ']', '\n'] else '\n' :: listItems indent items
  | .mapping entries => '\n' :: mappingEntries (indent + indentStep) entries

/-- The entries of a mapping, each key at the beginning of a line. -/
def mappingEntries (indent : Nat) : List (String × Node) → List Char
  | [] => []
  | (key, node) :: rest =>
      margin indent ++ key.toList ++ ':' :: entryValue indent node ++ mappingEntries indent rest

end

/-- The document of a mapping. -/
def document (entries : List (String × Node)) : String :=
  String.ofList (mappingEntries 0 entries)

end Yaml

end ServingPreset
