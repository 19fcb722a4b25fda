import ServingPreset.Problem
import ServingPreset.Text.Blank
import ServingPreset.Text.Cut
import ServingPreset.Text.Lowercase

/-!
# Repositories

The identifier of a model repository, `owner/name` or a bare name. A link to a
repository or to a page below it is reduced to the first two parts of its path;
queries and fragments do not count.
-/

namespace ServingPreset

/-- A model repository of a hub. -/
structure Repository where
  /-- The identifier, such as `owner/name`. -/
  id : String
deriving DecidableEq, Repr, Inhabited

namespace Repository

/-- The characters behind the first `://`, when there is one. -/
def behindScheme? : List Char → Option (List Char)
  | ':' :: '/' :: '/' :: rest => some rest
  | _ :: rest => behindScheme? rest
  | [] => none

/-- The nonempty parts of a path, without what stands before its first slash. -/
def pathParts (chars : List Char) : List (List Char) :=
  ((Text.segments '/' chars).drop 1).filter (fun part => !part.isEmpty)

/-- The identifier in text from which queries, fragments and outer white space are gone. -/
def identifier? (chars : List Char) : Option (List Char) :=
  match behindScheme? chars with
  | some location =>
      match pathParts location with
      | owner :: name :: _ => some (owner ++ '/' :: name)
      | _ => none
  | none =>
      let trimmed := Text.dropAround '/' chars
      if trimmed.isEmpty then none else some trimmed

/-- The text that holds an identifier: trimmed, up to the first `?` and then the first `#`. -/
def essence (text : String) : List Char :=
  Text.beforeFirst '#' (Text.beforeFirst '?' (Text.trimChars text.toList))

/-- The repository that a text names. -/
def ofText (text : String) : Except Problem Repository :=
  match identifier? (essence text) with
  | some chars => .ok ⟨String.ofList chars⟩
  | none => .error .missingRepository

/-- The last part of the identifier in lower case, by which the model is called. -/
def shortName (repository : Repository) : String :=
  Text.lowercase (String.ofList (Text.afterLast '/' repository.id.toList))

end Repository

end ServingPreset
