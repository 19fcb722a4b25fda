/-!
# Punycode

The ASCII form of a text with characters beyond ASCII, as it stands in the name of a host.
The ASCII characters come first. The others follow in increasing order of their code
points, each as the distance from the one before: a count of the places passed over, which
is written in base 36 with thresholds that adapt to the size of the distances so far.
-/

namespace ServingPreset

namespace Punycode

/-- A digit in base 36: a letter below 26, a decimal digit from there on. -/
def digit (value : Nat) : Char :=
  if value < 26 then Char.ofNat ('a'.toNat + value) else Char.ofNat ('0'.toNat + (value - 26))

/-- The threshold at a position of a distance: a digit below it is the last one. -/
def threshold (bias position : Nat) : Nat :=
  max 1 (min 26 (position - bias))

/-- A distance from a position on, the least significant digit first. -/
def distance (bias position value : Nat) : List Char :=
  let limit := threshold bias position
  if value < limit then [digit value]
  else
    digit (limit + (value - limit) % (36 - limit)) ::
      distance bias (position + 36) ((value - limit) / (36 - limit))
termination_by value
decreasing_by
  have positive : 1 ≤ threshold bias position := Nat.le_max_left ..
  exact Nat.lt_of_le_of_lt (Nat.div_le_self ..) (by omega)

/-- Divide a distance by 35 until it is at most 455, and count 36 for each division. -/
def shrink (value count : Nat) : Nat × Nat :=
  if 455 < value then shrink (value / 35) (count + 36) else (value, count)
termination_by value
decreasing_by omega

/-- The bias behind a distance, of which `handled` characters are known by then. -/
def adapt (value handled : Nat) (isFirst : Bool) : Nat :=
  let damped := if isFirst then value / 700 else value / 2
  let (rest, count) := shrink (damped + damped / handled) 0
  count + 36 * rest / (rest + 38)

/-- How far a text has been written. -/
structure Progress where
  /-- The places passed over since the last distance. -/
  passed : Nat
  /-- The bias of the next distance. -/
  bias : Nat
  handled : Nat
  written : List Char

/-- Pass one character while the places of a code point are written. -/
def Progress.pass (basic code : Nat) (progress : Progress) (char : Char) : Progress :=
  if char.toNat < code then { progress with passed := progress.passed + 1 }
  else if char.toNat = code then
    { passed := 0
      bias := adapt progress.passed (progress.handled + 1) (progress.handled = basic)
      handled := progress.handled + 1
      written := progress.written ++ distance progress.bias 36 progress.passed }
  else progress

/-- Write the places of code points, given in increasing order, all of them at least `next`. -/
def writeCodes (basic : Nat) (chars : List Char) (next : Nat) (progress : Progress) :
    List Nat → List Char
  | [] => progress.written
  | code :: rest =>
      let reached :=
        { progress with passed := progress.passed + (code - next) * (progress.handled + 1) }
      let done := chars.foldl (Progress.pass basic code) reached
      writeCodes basic chars (code + 1) { done with passed := done.passed + 1 } rest

/-- The ASCII form of a text. -/
def encode (chars : List Char) : List Char :=
  let ascii := chars.filter fun char => char.toNat < 0x80
  let codes := ((chars.map Char.toNat).filter fun code => 0x80 ≤ code).eraseDups.mergeSort
  ascii ++ (if ascii.isEmpty then [] else ['-']) ++
    writeCodes ascii.length chars 0x80 ⟨0, 72, ascii.length, []⟩ codes

end Punycode

end ServingPreset
