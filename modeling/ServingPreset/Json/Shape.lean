import ServingPreset.Json.Skip

/-!
# Reading documents of a known shape

Readers for words, texts, lists and records. A record is written as an object with
its fields in any order, or as an array of its fields in declaration order. A field
that is absent keeps its default, a field that is stated twice is a defect, and a
member that is no field is skipped.
-/

namespace ServingPreset

namespace Json

/-- Read a text. -/
def text : Reader String := fun bytes =>
  match skipSpace bytes with
  | [] => .error .truncated
  | first :: rest =>
      if first = byte '"' then readText rest else .error (unexpected (first :: rest))

/-- Read an unsigned word. -/
def unsigned : Reader UInt64 := fun bytes =>
  match skipSpace bytes with
  | [] => .error .truncated
  | first :: rest =>
      if first = byte '-' || isDigit first then do
        let (value, rest) ← readScalar (first :: rest)
        match value.unsigned? with
        | some word => return (word, rest)
        | none => .error .unsuited
      else .error (unexpected (first :: rest))

/-- Read a value, or `null` in place of its default. -/
def orNull {Result : Type} (default : Result) (read : Reader Result) : Reader Result :=
  fun bytes =>
    match skipSpace bytes with
    | first :: rest =>
        if first = byte 'n' then do
          let rest ← expectWord ['u', 'l', 'l'] rest
          return (default, rest)
        else read bytes
    | [] => read bytes

/-- A field of a record: its name and how its value changes the record. -/
structure Field (Target : Type) where
  name : String
  /-- Read the value of the field. -/
  read : Reader (Target → Target)

namespace Field

/-- The field that stores what a reader yields. -/
def storing {Target Result : Type} (name : String) (read : Reader Result)
    (store : Result → Target → Target) : Field Target :=
  ⟨name, fun bytes => do
    let (result, rest) ← read bytes
    return (store result, rest)⟩

end Field

/-- Read the members of an object into a record; `seen` holds the fields already stated. -/
def readFields {Target : Type} (fields : List (Field Target)) :
    Nat → Bool → List String → Target → Reader Target
  | 0, _, _, _, _ => .error .malformed
  | fuel + 1, atStart, seen, target, bytes => do
      match ← nextEntry '\x7d' atStart bytes with
      | .finished rest => return (target, rest)
      | .entry first rest =>
          if first = byte '"' then
            let (name, rest) ← readText rest
            match fields.find? (fun field => field.name == name) with
            | some field =>
                if seen.contains name then .error .unsuited
                else
                  let rest ← expectColon rest
                  let (change, rest) ← field.read rest
                  readFields fields fuel false (name :: seen) (change target) rest
            | none =>
                let rest ← expectColon rest
                let rest ← skipValue rest
                readFields fields fuel false seen target rest
          else .error .malformed

/-- The input behind the end of an array that has no further element. -/
def expectArrayEnd (bytes : Bytes) : Except Defect Bytes :=
  match skipSpace bytes with
  | [] => .error .truncated
  | octet :: rest => if octet = byte ']' then .ok rest else .error .malformed

/-- Read the elements of an array into the fields of a record, in declaration order. -/
def readPositions {Target : Type} :
    List (Field Target) → Bool → Target → Reader Target
  | [], _, target, bytes => do
      let rest ← expectArrayEnd bytes
      return (target, rest)
  | field :: fields, atStart, target, bytes => do
      match ← nextEntry ']' atStart bytes with
      | .finished rest => return (target, rest)
      | .entry first rest =>
          let (change, rest) ← field.read (first :: rest)
          readPositions fields false (change target) rest

/-- Read a record, of which every field has the default that it has in `initial`. -/
def record {Target : Type} (fields : List (Field Target)) (initial : Target) :
    Reader Target := fun bytes =>
  match skipSpace bytes with
  | [] => .error .truncated
  | first :: rest =>
      if first = byte '[' then readPositions fields true initial rest
      else if first = byte '\x7b' then
        readFields fields (readingFuel rest) true [] initial rest
      else .error (unexpected (first :: rest))

/-- Read the elements of a list behind those already read, which are held in reverse. -/
def readList {Element : Type} (read : Reader Element) :
    Nat → Bool → List Element → Reader (List Element)
  | 0, _, _, _ => .error .malformed
  | fuel + 1, atStart, before, bytes => do
      match ← nextEntry ']' atStart bytes with
      | .finished rest => return (before.reverse, rest)
      | .entry first rest =>
          let (element, rest) ← read (first :: rest)
          readList read fuel false (element :: before) rest

/-- Read an array of values of one shape. -/
def listOf {Element : Type} (read : Reader Element) : Reader (List Element) := fun bytes =>
  match skipSpace bytes with
  | [] => .error .truncated
  | first :: rest =>
      if first = byte '[' then readList read (readingFuel rest) true [] rest
      else .error (unexpected (first :: rest))

end Json

end ServingPreset
