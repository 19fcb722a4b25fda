import ServingPreset.Json.Reader

/-!
# Skipping JSON values

A value that nobody asks for is stepped over without being built. Brackets have to
match and the pieces have to be in place, but the depth of the nesting, the range of
numerals and the characters of strings do not matter. The open brackets are kept in a
list, innermost first, so that any depth can be followed.
-/

namespace ServingPreset

namespace Json

/-- An open bracket of a skipped value. -/
inductive Bracket where
  | array
  | object
deriving DecidableEq, Repr

namespace Bracket

/-- The byte that closes a bracket. -/
def closing : Bracket → UInt8
  | array => byte ']'
  | object => byte '\x7d'

end Bracket

/-- What a skip expects next. -/
inductive Expectation where
  | value
  /-- The first entry of the innermost bracket, or its end. -/
  | opened
  | separator
  | name

/-- The input behind a word, numeral or string that is skipped. -/
def skipScalar : Bytes → Except Defect Bytes
  | [] => .error .truncated
  | first :: rest =>
      if first = byte 'n' then expectWord ['u', 'l', 'l'] rest
      else if first = byte 't' then expectWord ['r', 'u', 'e'] rest
      else if first = byte 'f' then expectWord ['a', 'l', 's', 'e'] rest
      else if first = byte '"' then skipText rest
      else if first = byte '-' then skipNumber rest
      else if isDigit first then skipNumber (first :: rest)
      else .error .malformed

/-- What an entry of a bracket begins with. -/
def Bracket.entry : Bracket → Expectation
  | .array => .value
  | .object => .name

/-- Skip on with the given brackets open until the outermost value is complete. -/
def skipOpen : Nat → List Bracket → Expectation → Bytes → Except Defect Bytes
  | 0, _, _, _ => .error .malformed
  | fuel + 1, brackets, expected, bytes =>
      match expected, skipSpace bytes with
      | _, [] => .error .truncated
      | .value, first :: rest =>
          if first = byte '[' then skipOpen fuel (.array :: brackets) .opened rest
          else if first = byte '\x7b' then skipOpen fuel (.object :: brackets) .opened rest
          else do
            let rest ← skipScalar (first :: rest)
            if brackets.isEmpty then return rest else skipOpen fuel brackets .separator rest
      | .opened, first :: rest =>
          match brackets with
          | [] => .error .malformed
          | bracket :: outer =>
              if first = bracket.closing then
                if outer.isEmpty then .ok rest else skipOpen fuel outer .separator rest
              else skipOpen fuel brackets bracket.entry (first :: rest)
      | .separator, first :: rest =>
          match brackets with
          | [] => .error .malformed
          | bracket :: outer =>
              if first = bracket.closing then
                if outer.isEmpty then .ok rest else skipOpen fuel outer .separator rest
              else if first = byte ',' then skipOpen fuel brackets bracket.entry rest
              else .error .malformed
      | .name, first :: rest =>
          if first = byte '"' then do
            let rest ← skipText rest
            let rest ← expectColon rest
            skipOpen fuel brackets .value rest
          else .error .malformed

/-- The input behind a value that is skipped. -/
def skipValue (bytes : Bytes) : Except Defect Bytes :=
  skipOpen (readingFuel bytes) [] .value bytes

end Json

end ServingPreset
