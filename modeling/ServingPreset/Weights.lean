import ServingPreset.Number.Word
import ServingPreset.Problem
import ServingPreset.Remote.Listing
import ServingPreset.Text.Cut

/-!
# Weight files

Which files of a listing make up the model. Consolidated checkpoints are preferred to
everything else, and sharded safetensors to binary files, so that a repository with
several formats is counted once. The name of a file is what follows the last slash of
its path.
-/

namespace ServingPreset

/-- The layout of a checkpoint, which decides how a model is configured and loaded. -/
inductive WeightLayout where
  /-- A consolidated checkpoint with a parameter document of its own. -/
  | consolidated
  | standard
deriving DecidableEq, Repr, Inhabited

namespace WeightLayout

/-- The document that describes a model of this layout. -/
def configFile : WeightLayout → String
  | consolidated => "params.json"
  | standard => "config.json"

/-- The mode in which weights, configuration and tokenizer of this layout are loaded. -/
def loadMode : WeightLayout → String
  | consolidated => "mistral"
  | standard => "auto"

/-- The serving flags that select the mode. -/
def flags (layout : WeightLayout) : List (String × String) :=
  [("load_format", layout.loadMode), ("config_format", layout.loadMode),
    ("tokenizer_mode", layout.loadMode)]

end WeightLayout

namespace FileRow

/-- The characters of the file name. -/
def name (row : FileRow) : List Char :=
  Text.afterLast '/' row.path.toList

/-- Whether the file name has a given ending. -/
def hasEnding (ending : String) (row : FileRow) : Bool :=
  ending.toList.isSuffixOf row.name

/-- Whether the row is a safetensors file. -/
def isSafetensors (row : FileRow) : Bool :=
  row.hasEnding ".safetensors"

/-- Whether the row is a binary weight file. -/
def isBinary (row : FileRow) : Bool :=
  row.hasEnding ".bin"

/-- Whether the row is part of a consolidated checkpoint. -/
def isConsolidated (row : FileRow) : Bool :=
  "consolidated".toList.isPrefixOf row.name && row.isSafetensors

end FileRow

/-- The weight files of a model and their layout. -/
structure Weights where
  layout : WeightLayout
  files : List FileRow
deriving DecidableEq, Repr, Inhabited

namespace Weights

/-- Select the weight files of a listing. -/
def ofListing (listing : List FileRow) : Except Problem Weights :=
  let consolidated := listing.filter FileRow.isConsolidated
  if !consolidated.isEmpty then .ok ⟨.consolidated, consolidated⟩
  else
    let candidates := listing.filter fun row => row.isSafetensors || row.isBinary
    let (safetensors, binaries) := candidates.partition FileRow.isSafetensors
    if !safetensors.isEmpty then .ok ⟨.standard, safetensors⟩
    else if !binaries.isEmpty then .ok ⟨.standard, binaries⟩
    else .error .noWeightFiles

/-- The size of the model: the sum of the sizes of its files, if it fits a word. -/
def totalBytes (weights : Weights) : Except Fault UInt64 :=
  weights.files.foldlM (fun sum row => addUnsigned sum row.size) 0

end Weights

end ServingPreset
