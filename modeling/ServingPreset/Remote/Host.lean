import ServingPreset.Number.DecimalText
import ServingPreset.Remote.PercentEscape
import ServingPreset.Remote.Punycode
import ServingPreset.Text.Cut
import ServingPreset.Text.Lowercase

/-!
# Hosts

How the host of a URL is understood and shown: as a numeric address of four or of sixteen
bytes, or as a name, which is shown in ASCII. Where a scheme does not need a host, a name
means nothing to the reader and is only escaped.
-/

namespace ServingPreset

namespace Host

/-- The value of digits of a base, the first being the most significant; zero for none. -/
def radixNumber? (base : Nat) (digits : List Char) : Option Nat :=
  (digits.mapM Text.hexValue?).bind fun values =>
    if values.all (· < base) then some (values.foldl (fun value digit => base * value + digit) 0)
    else none

/-- The value of a part of a numeric address: `0x` stands before base 16, a zero before base 8. -/
def addressPart? : List Char → Option Nat
  | [] => none
  | '0' :: 'x' :: digits => radixNumber? 16 digits
  | '0' :: digits => radixNumber? 8 digits
  | digits => radixNumber? 10 digits

/-- The parts of a name between its dots, without an empty one at the end. -/
def addressParts (name : List Char) : List (List Char) :=
  match (Text.segments '.' name).reverse with
  | [] :: before => before.reverse
  | parts => parts.reverse

/-- Whether a name ends with a number, so that it can only be an address. -/
def endsInNumber (name : List Char) : Bool :=
  match (addressParts name).getLast? with
  | none => false
  | some part => (!part.isEmpty && part.all DecimalText.isDigit) || (addressPart? part).isSome

/-- Numbers with dots between them. -/
def dotted (numbers : List Nat) : List Char :=
  ['.'].intercalate (numbers.map fun number => (DecimalText.render number).toList)

/--
The address of four bytes that a name spells. Each part but the last is a byte, and the
last part fills the bytes that are left.
-/
def fourByteAddress? (name : List Char) : Option (List Char) :=
  ((addressParts name).mapM addressPart?).bind fun numbers =>
    match numbers.reverse with
    | [] => none
    | last :: before =>
        let free := 4 - before.length
        if 4 ≤ before.length || Nat.pow 256 free ≤ last || !before.all (· < 256) then none
        else
          some (dotted (before.reverse ++
            (List.range free).reverse.map fun place => last / Nat.pow 256 place % 256))

/-- The two bytes that one to four hexadecimal digits spell. -/
def piece? (digits : List Char) : Option Nat :=
  if digits.isEmpty || 4 < digits.length then none else radixNumber? 16 digits

/-- The two pieces of a part with dots, which has four bytes in decimal digits. -/
def dottedPieces? (part : List Char) : Option (List Nat) :=
  let byte? (digits : List Char) : Option Nat :=
    if digits.head? = some '0' && 1 < digits.length then none
    else (DecimalText.natural? digits).filter (· < 256)
  match (Text.segments '.' part).mapM byte? with
  | some [first, second, third, fourth] => some [256 * first + second, 256 * third + fourth]
  | _ => none

/-- The pieces of parts, of which only the last one may have dots, and only if `atEnd`. -/
def pieces? (atEnd : Bool) : List (List Char) → Option (List Nat)
  | [] => some []
  | [last] =>
      if atEnd && last.contains '.' then dottedPieces? last else (piece? last).map ([·])
  | part :: rest => do return (← piece? part) :: (← pieces? atEnd rest)

/-- What stands before and behind the first two colons in a row. -/
def splitGap? : List Char → Option (List Char × List Char)
  | ':' :: ':' :: rest => some ([], rest)
  | char :: rest => (splitGap? rest).map fun sides => (char :: sides.1, sides.2)
  | [] => none

/-- The pieces of one side of a gap. -/
def sidePieces? (atEnd : Bool) (side : List Char) : Option (List Nat) :=
  if side.isEmpty then some [] else pieces? atEnd (Text.segments ':' side)

/-- The eight pieces of an address of sixteen bytes; a gap stands for one or more zeros. -/
def eightPieces? (chars : List Char) : Option (List Nat) :=
  match splitGap? chars with
  | none => (sidePieces? true chars).filter (·.length = 8)
  | some (left, right) => do
      let before ← sidePieces? false left
      let after ← sidePieces? true right
      if before.length + after.length < 8 then
        some (before ++ List.replicate (8 - before.length - after.length) 0 ++ after)
      else none

/-- Pieces in hexadecimal digits with colons between them. -/
def colonSeparated (pieces : List Nat) : List Char :=
  [':'].intercalate (pieces.map (Nat.toDigits 16))

/-- An address as it is shown: the first longest run of at least two zeros is left out. -/
def shownPieces (pieces : List Nat) : List Char :=
  let runs := (List.range pieces.length).map fun place =>
    ((pieces.drop place).takeWhile (· = 0)).length
  let longest := runs.foldl max 0
  if longest < 2 then colonSeparated pieces
  else
    let place := runs.idxOf longest
    colonSeparated (pieces.take place) ++ [':', ':'] ++
      colonSeparated (pieces.drop (place + longest))

/-- An address between brackets. -/
def bracketed? (chars : List Char) : Option (List Char) :=
  match chars.reverse with
  | ']' :: inside =>
      (eightPieces? inside.reverse).map fun pieces => '[' :: shownPieces pieces ++ [']']
  | _ => none

/-- The characters that may stand in no host. -/
def delimiters : List Char :=
  ['\x00', '\t', '\n', '\r', ' ', '#', '/', ':', '<', '>', '?', '@', '[', '\\', ']', '^', '|']

/-- The full stops that part the labels of a name. -/
def fullStops : List Char := ['.', '\u3002', '\uff0e', '\uff61']

/-- A label in ASCII. -/
def asciiLabel (label : List Char) : List Char :=
  if label.all (·.toNat < 0x80) then label else "xn--".toList ++ Punycode.encode label

/-- A name in lower case and in ASCII. -/
def asciiName (name : List Char) : List Char :=
  let lower := name.flatMap Text.lowerChar
  let parted := lower.map fun char => if fullStops.contains char then '.' else char
  ['.'].intercalate ((Text.segments '.' parted).map asciiLabel)

/-- Whether a character may stand in the ASCII form of a name. -/
def isNameChar (char : Char) : Bool :=
  0x20 < char.toNat && char.toNat ≠ 0x7F && char ≠ '%' && !delimiters.contains char

/-- A host that a scheme needs, as it is shown. -/
def ofNeeded? (chars : List Char) : Option (List Char) :=
  match chars with
  | '[' :: rest => bracketed? rest
  | _ =>
      (String.fromUTF8? ⟨(PercentEscape.decode chars).toArray⟩).bind fun decoded =>
        let name := asciiName decoded.toList
        if name.isEmpty || !name.all isNameChar then none
        else if endsInNumber name then fourByteAddress? name
        else some name

/-- A host that a scheme does not need, as it is shown; it may be empty. -/
def ofOptional? (chars : List Char) : Option (List Char) :=
  match chars with
  | '[' :: rest => bracketed? rest
  | _ => if chars.any delimiters.contains then none else some (PercentEscape.encode [] chars)

end Host

end ServingPreset
