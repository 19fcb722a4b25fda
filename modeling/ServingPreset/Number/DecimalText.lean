import ServingPreset.Number.Binary64
import ServingPreset.Number.Word
import ServingPreset.Text.Ascii

/-!
# Reading and writing numbers as decimal text

Digits are the ten ASCII digits only. An integer is an optional sign and at least
one digit. A floating-point number is an optional sign and either one of the words
`inf`, `infinity` and `nan` in any mix of cases, or digits with at most one point
and at least one digit, optionally followed by an exponent.
-/

namespace ServingPreset

namespace DecimalText

/-- Whether a character is one of the ten ASCII digits. -/
def isDigit (char : Char) : Bool :=
  '0' ≤ char && char ≤ '9'

/-- The value of a digit. -/
def digitValue (char : Char) : Nat :=
  char.toNat - '0'.toNat

/-- The value of a run of digits, the first being the most significant. -/
def digitsValue (digits : List Char) : Nat :=
  digits.foldl (fun value digit => 10 * value + digitValue digit) 0

/-- The value of a text of one or more digits. -/
def natural? (chars : List Char) : Option Nat :=
  if chars.isEmpty || !chars.all isDigit then none else some (digitsValue chars)

/-- Take an optional sign off the front; the flag says whether it is a minus. -/
def splitSign : List Char → Bool × List Char
  | '-' :: rest => (true, rest)
  | '+' :: rest => (false, rest)
  | chars => (false, chars)

/-- The value of an optional sign followed by one or more digits. -/
def integer? (chars : List Char) : Option Int :=
  let (negative, digits) := splitSign chars
  (natural? digits).map fun value => if negative then -(value : Int) else value

/-- The signed word that a text spells. -/
def signed? (text : String) : Option Int64 :=
  (integer? text.toList).bind signedWord?

/-- The unsigned word that a text spells: an optional plus and digits within the range. -/
def unsigned? (text : String) : Option UInt64 :=
  let digits := match text.toList with
    | '+' :: rest => rest
    | chars => chars
  match natural? digits with
  | some value => if value ≤ maxUnsigned then some (UInt64.ofNat value) else none
  | none => none

/-- A floating-point number as a text spells it. -/
inductive Real where
  /-- A number of the given sign; the magnitude may be infinite after rounding. -/
  | number (negative : Bool) (magnitude : Binary64)
  | undefined
deriving DecidableEq, Repr

/-- The exponent that `e` or `E` introduces, zero when nothing follows. -/
def exponent? : List Char → Option Int
  | [] => some 0
  | char :: rest => if char = 'e' ∨ char = 'E' then integer? rest else none

/-- Digits, a point, further digits and an exponent, rounded once to the nearest number. -/
def magnitude? (chars : List Char) : Option Binary64 :=
  let whole := chars.takeWhile isDigit
  let afterWhole := chars.dropWhile isDigit
  let (fraction, afterFraction) := match afterWhole with
    | '.' :: rest => (rest.takeWhile isDigit, rest.dropWhile isDigit)
    | rest => ([], rest)
  if whole.isEmpty && fraction.isEmpty then none
  else
    (exponent? afterFraction).map fun exponent =>
      Binary64.ofDecimal (digitsValue (whole ++ fraction)) (exponent - fraction.length)

/-- The floating-point number that a text spells. -/
def real? (chars : List Char) : Option Real :=
  let (negative, unsignedPart) := splitSign chars
  let word := unsignedPart.map Text.lowerAscii
  if word = "inf".toList ∨ word = "infinity".toList then
    some (.number negative ⟨Binary64.infiniteCode⟩)
  else if word = "nan".toList then some .undefined
  else (magnitude? unsignedPart).map (.number negative)

/-- The decimal digits of a natural number, without leading zeros. -/
def render (value : Nat) : String :=
  String.ofList (Nat.toDigits 10 value)

end DecimalText

end ServingPreset
