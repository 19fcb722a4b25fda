import ServingPreset.Json.Reader
import ServingPreset.Number.DecimalText
import ServingPreset.Problem

/-!
# Model configuration documents

A configuration document is an object without a fixed schema. Each fact is read
through a list of candidate keys, of which the first one with a usable value counts.
-/

namespace ServingPreset

/-- The object of a configuration document. -/
structure ConfigDocument where
  members : List (String × Json.Value)
deriving Repr, Inhabited

namespace ConfigDocument

/-- Read the document that was fetched from a URL. -/
def ofBytes (bytes : Json.Bytes) (url : String) : Except Problem ConfigDocument :=
  match Json.document Json.readObject bytes with
  | .ok members => .ok ⟨members⟩
  | .error defect => .error (.unreadable url defect)

/-- The value under a key. -/
def get? (config : ConfigDocument) (key : String) : Option Json.Value :=
  (Json.Value.object config.members).get? key

/-- The first key whose value is usable decides. -/
def first? {Result : Type} (config : ConfigDocument) (use : Json.Value → Option Result)
    (keys : List String) : Option Result :=
  (keys.filterMap config.get?).findSome? use

/--
The integer that a value stands for. Numbers are cut toward zero and held at the
limits of the word; a string has to spell a word.
-/
def coerceInt? : Json.Value → Option Int64
  | .number (.integer value) => some (clampSigned value)
  | .number (.real negative magnitude) =>
      some (clampSigned (if negative then -(magnitude.floor : Int) else magnitude.floor))
  | .string text => DecimalText.signed? text
  | _ => none

/-- The integer under the first key that has one. -/
def int? (config : ConfigDocument) (keys : List String) : Option Int64 :=
  config.first? coerceInt? keys

/-- The integer under the first key that has one, or a default. -/
def int (config : ConfigDocument) (keys : List String) (default : Int64) : Int64 :=
  (config.int? keys).getD default

/-- The text under the first key that has one. -/
def string? (config : ConfigDocument) (keys : List String) : Option String :=
  config.first? Json.Value.string? keys

/-- The truth value under the first key that has one. -/
def bool? (config : ConfigDocument) (keys : List String) : Option Bool :=
  config.first? Json.Value.bool? keys

/-- The token limit of a model whose configuration states none. -/
def defaultTokenLimit : Int64 := 2048

/-- The keys under which a token limit is stated. -/
def tokenLimitKeys : List String :=
  ["max_position_embeddings", "n_ctx", "seq_length", "max_seq_len", "max_sequence_length"]

/-- The number of tokens that a model attends to. -/
def tokenLimit (config : ConfigDocument) : Int64 :=
  config.int tokenLimitKeys defaultTokenLimit

/-- The architectures of families whose configuration names none, by the start of the name. -/
def familyArchitectures : List (String × String) :=
  [("mistral-large-3", "MistralLarge3ForCausalLM"),
    ("ministral-3", "Mistral3ForConditionalGeneration")]

/-- The architectures that the document states; entries that are no strings do not count. -/
def declaredArchitectures (config : ConfigDocument) : List String :=
  (((config.get? "architectures").bind Json.Value.array?).getD []).filterMap Json.Value.string?

/-- The architectures of a model: those stated, else the one of its family, if any. -/
def architectures (config : ConfigDocument) (modelName : String) : List String :=
  let declared := config.declaredArchitectures
  if !declared.isEmpty then declared
  else
    match familyArchitectures.find? (fun row => row.1.toList.isPrefixOf modelName.toList) with
    | some row => [row.2]
    | none => []

end ConfigDocument

end ServingPreset
