import ServingPreset.Json.Numeral

/-!
# Reading JSON values

A value that is kept is read with all its text decoded and nests at most 127 levels
deep. `readObject` reads the members of an object; a document is a value with nothing
but white space around it. The recursion is bounded by fuel that `readingFuel`
computes from the length of the input: each step takes a byte, or enters a value
whose first byte the next step takes.
-/

namespace ServingPreset

namespace Json

/-- The number of levels that arrays and objects may nest, the outermost included. -/
def depthLimit : Nat := 127

/-- Enough steps to read any value of an input. -/
def readingFuel (bytes : Bytes) : Nat :=
  2 * bytes.length + 2

/-- The value of a scanned word or numeral, or of text; arrays and objects are left alone. -/
def readScalar (bytes : Bytes) : Except Defect (Value × Bytes) :=
  match bytes with
  | [] => .error .truncated
  | first :: rest =>
      if first = byte 'n' then do
        let rest ← expectWord ['u', 'l', 'l'] rest
        return (.null, rest)
      else if first = byte 't' then do
        let rest ← expectWord ['r', 'u', 'e'] rest
        return (.bool true, rest)
      else if first = byte 'f' then do
        let rest ← expectWord ['a', 'l', 's', 'e'] rest
        return (.bool false, rest)
      else if first = byte '"' then do
        let (text, rest) ← readText rest
        return (.string text, rest)
      else if first = byte '-' then do
        let (number, rest) ← readNumber true rest
        return (.number number, rest)
      else if isDigit first then do
        let (number, rest) ← readNumber false bytes
        return (.number number, rest)
      else .error .malformed

/-- The input at the value of a member: behind white space, a colon and white space. -/
def expectColon (bytes : Bytes) : Except Defect Bytes :=
  match skipSpace bytes with
  | [] => .error .truncated
  | octet :: rest => if octet = byte ':' then .ok rest else .error .malformed

/-- What stands at the front of the rest of an array or object. -/
inductive Continuation where
  /-- The container ends; the input behind its end. -/
  | finished (rest : Bytes)
  /-- Another element or member begins; its first byte and the bytes behind it. -/
  | entry (first : UInt8) (rest : Bytes)

/--
Look for the next entry of a container that ends with `closing`. Entries are
separated by commas, and a comma is followed by an entry.
-/
def nextEntry (closing : Char) (atStart : Bool) (bytes : Bytes) : Except Defect Continuation :=
  match skipSpace bytes with
  | [] => .error .truncated
  | octet :: rest =>
      if octet = byte closing then .ok (.finished rest)
      else if atStart then .ok (.entry octet rest)
      else if octet = byte ',' then
        match skipSpace rest with
        | [] => .error .truncated
        | following :: later =>
            if following = byte closing then .error .malformed
            else .ok (.entry following later)
      else .error .malformed

mutual

/-- Read a value that may nest `depth` levels deep. -/
def readValue : Nat → Nat → Reader Value
  | 0, _, _ => .error .malformed
  | fuel + 1, depth, bytes =>
      match skipSpace bytes with
      | [] => .error .truncated
      | first :: rest =>
          if first = byte '[' then
            match depth with
            | 0 => .error .malformed
            | depth + 1 => readElements fuel depth true [] rest
          else if first = byte '\x7b' then
            match depth with
            | 0 => .error .malformed
            | depth + 1 => do
                let (members, rest) ← readMembers fuel depth true [] rest
                return (.object members, rest)
          else readScalar (first :: rest)

/-- Read the elements of an array behind those already read, which are held in reverse. -/
def readElements : Nat → Nat → Bool → List Value → Reader Value
  | 0, _, _, _, _ => .error .malformed
  | fuel + 1, depth, atStart, before, bytes => do
      match ← nextEntry ']' atStart bytes with
      | .finished rest => return (.array before.reverse, rest)
      | .entry first rest =>
          let (element, rest) ← readValue fuel depth (first :: rest)
          readElements fuel depth false (element :: before) rest

/-- Read the members of an object behind those already read. -/
def readMembers : Nat → Nat → Bool → List (String × Value) →
    Reader (List (String × Value))
  | 0, _, _, _, _ => .error .malformed
  | fuel + 1, depth, atStart, members, bytes => do
      match ← nextEntry '\x7d' atStart bytes with
      | .finished rest => return (members, rest)
      | .entry first rest =>
          if first = byte '"' then
            let (name, rest) ← readText rest
            let rest ← expectColon rest
            let (value, rest) ← readValue fuel depth rest
            readMembers fuel depth false (putMember name value members) rest
          else .error .malformed

end

/--
The defect of a value whose shape is not expected. A word, numeral or text is read
to its end first, so that a defect inside it is the one reported.
-/
def unexpected (bytes : Bytes) : Defect :=
  match bytes with
  | [] => .truncated
  | first :: _ =>
      if first = byte '[' || first = byte '\x7b' then .unsuited
      else
        match readScalar bytes with
        | .ok _ => .unsuited
        | .error defect => defect

/-- Read an object and keep its members. -/
def readObject : Reader (List (String × Value)) := fun bytes =>
  match skipSpace bytes with
  | [] => .error .truncated
  | first :: rest =>
      if first = byte '\x7b' then
        readMembers (readingFuel rest) (depthLimit - 1) true [] rest
      else .error (unexpected (first :: rest))

/-- Read a document: one value with nothing but white space around it. -/
def document {Result : Type} (read : Reader Result) (bytes : Bytes) :
    Except Defect Result := do
  let (result, rest) ← read bytes
  if (skipSpace rest).isEmpty then return result else .error .malformed

/-- The value that a document states. -/
def Value.ofBytes (bytes : Bytes) : Except Defect Value :=
  document (readValue (readingFuel bytes) depthLimit) bytes

end Json

end ServingPreset
