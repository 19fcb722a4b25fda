import ServingPreset.ServedModel
import ServingPreset.Number.Word
import ServingPreset.Text.Cut

/-!
# The index of registered models

Models by the names under which they are registered. The last registration under a
name counts, and the empty name cannot be registered.
-/

namespace ServingPreset

/-- The registered models by name. -/
@[ext]
structure ModelIndex where
  models : NameMap ServedModel
deriving DecidableEq, Inhabited

namespace ModelIndex

/-- The index without models. -/
def empty : ModelIndex := ⟨NameMap.empty⟩

/-- Register a model, in place of any other of that name. -/
def register (index : ModelIndex) (name : String) (model : ServedModel) :
    Except Fault ModelIndex :=
  if name.isEmpty then .error .unnamedModel else .ok ⟨index.models.insert name model⟩

/-- The model of a name. -/
def get? (index : ModelIndex) (name : String) : Option ServedModel :=
  index.models.get? name

/-- Whether a name is registered. -/
def has (index : ModelIndex) (name : String) : Bool :=
  index.models.contains name

/-- The registered names in increasing order. -/
def names (index : ModelIndex) : List String :=
  index.models.names

/-- The number of registered names. -/
def count (index : ModelIndex) : Nat :=
  index.models.size

/-- Whether a text has the form `owner/name` with both parts nonempty. -/
def isIdentifier (name : String) : Bool :=
  match Text.afterFirst? '/' name.toList with
  | some rest => !(Text.beforeFirst '/' name.toList).isEmpty && !rest.isEmpty
  | none => false

/-- Whether a name can be asked for: it is registered, or has the form of an identifier. -/
def isUsable (index : ModelIndex) (name : String) : Bool :=
  index.has name || isIdentifier name

end ModelIndex

end ServingPreset
