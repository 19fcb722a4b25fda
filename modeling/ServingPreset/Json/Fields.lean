import ServingPreset.Json.Value
import ServingPreset.NameMap

/-!
# Decoding values into records

A record is stated by an object, or by an array of its fields in declaration order.
`required` and `defaulted` fetch a field and decode it. There is one way to fail: the
value does not have the shape of the record.
-/

namespace ServingPreset

namespace Json

/-- The values that are stated for the fields of a record. -/
abbrev FieldSource := String → Option Value

namespace Value

/-- The fields that a value states for a record with the given field names. -/
def fields? (names : List String) : Value → Option FieldSource
  | object members => some fun name => (object members).get? name
  | array elements =>
      if elements.length ≤ names.length then some fun name => elements[names.idxOf name]?
      else none
  | _ => none

/-- The texts of an array of strings. -/
def strings? (value : Value) : Option (List String) :=
  value.array?.bind fun elements => elements.mapM string?

/-- The map that an object with string values states. -/
def stringMap? (value : Value) : Option (NameMap String) := do
  let members ← value.object?
  let entries ← members.mapM fun member => do return (member.1, ← member.2.string?)
  return NameMap.ofList entries

/-- An object with string values. -/
def ofStringMap (map : NameMap String) : Value :=
  object (map.entries.map fun entry => (entry.1, string entry.2))

end Value

namespace FieldSource

variable {Result : Type}

/-- Decode a field that has to be stated. -/
def required (source : FieldSource) (name : String) (decode : Value → Option Result) :
    Option Result :=
  (source name).bind decode

/-- Decode a field that has a default. -/
def defaulted (source : FieldSource) (name : String) (default : Result)
    (decode : Value → Option Result) : Option Result :=
  match source name with
  | some value => decode value
  | none => some default

end FieldSource

end Json

end ServingPreset
