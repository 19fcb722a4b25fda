import ServingPreset.Text.CaseTable

/-!
# Lowercasing

Full Unicode lowercasing of a text. Three rules beyond the table: the capital I
with a dot becomes an i followed by the combining dot, and a capital sigma
becomes the final form when a cased letter precedes it and none follows it,
case-ignorable characters between them aside.
-/

namespace ServingPreset

namespace Text

/-- The lowercase form of one character apart from its surroundings. -/
def lowerChar (char : Char) : List Char :=
  if char = 'İ' then ['i', '\u0307']
  else
    match lowercaseRanges.find? (fun range => range.covers char.toNat) with
    | some range => [Char.ofNat (range.lower char.toNat)]
    | none => [char]

/-- Whether the first character that is not case-ignorable is a letter with case. -/
def meetsCased (chars : List Char) : Bool :=
  ((chars.dropWhile isCaseIgnorable).head?.map isCased).getD false

/-- Lowercase the characters that follow `before`, which is given in reverse. -/
def lowercaseAfter (before : List Char) : List Char → List Char
  | [] => []
  | char :: rest =>
      (if char = 'Σ' then
        [if meetsCased before && !meetsCased rest then 'ς' else 'σ']
      else
        lowerChar char) ++ lowercaseAfter (char :: before) rest

/-- A text in lower case. -/
def lowercase (text : String) : String :=
  String.ofList (lowercaseAfter [] text.toList)

end Text

end ServingPreset
