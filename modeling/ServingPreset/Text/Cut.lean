/-!
# Cutting text at characters

Small cuts of character lists: what stands before the first or after the last
occurrence of a character, the segments between its occurrences, and what is
left without it at either end.
-/

namespace ServingPreset

namespace Text

/-- The characters before the first `mark`, all of them when there is none. -/
def beforeFirst (mark : Char) (chars : List Char) : List Char :=
  chars.takeWhile (· != mark)

/-- The characters after the first `mark`, when there is one. -/
def afterFirst? (mark : Char) : List Char → Option (List Char)
  | [] => none
  | char :: rest => if char = mark then some rest else afterFirst? mark rest

/-- The characters after the last `mark`, all of them when there is none. -/
def afterLast (mark : Char) (chars : List Char) : List Char :=
  (chars.reverse.takeWhile (· != mark)).reverse

/-- The characters without any `mark` at the end. -/
def dropTrailing (mark : Char) (chars : List Char) : List Char :=
  (chars.reverse.dropWhile (· == mark)).reverse

/-- The characters without any `mark` at either end. -/
def dropAround (mark : Char) (chars : List Char) : List Char :=
  dropTrailing mark (chars.dropWhile (· == mark))

/-- The segments between the occurrences of `mark`: one more than there are marks. -/
def segments (mark : Char) : List Char → List (List Char)
  | [] => [[]]
  | char :: rest =>
      if char = mark then [] :: segments mark rest
      else
        match segments mark rest with
        | [] => [[char]]
        | head :: tail => (char :: head) :: tail

/-- What remains when `ending` is taken off the end, if the characters end with it. -/
def withoutEnding? (ending chars : List Char) : Option (List Char) :=
  if ending.isSuffixOf chars then some (chars.take (chars.length - ending.length)) else none

end Text

end ServingPreset
