/-!
# ASCII letters and digits

Case and hexadecimal digits where only ASCII counts, whatever other letters a text has.
-/

namespace ServingPreset

namespace Text

/-- A lowercase ASCII letter for each capital, other characters unchanged. -/
def lowerAscii (char : Char) : Char :=
  if 'A' ≤ char ∧ char ≤ 'Z' then Char.ofNat (char.toNat + 32) else char

/-- The value of a hexadecimal digit of either case. -/
def hexValue? (char : Char) : Option Nat :=
  let lower := lowerAscii char
  if '0' ≤ lower ∧ lower ≤ '9' then some (lower.toNat - '0'.toNat)
  else if 'a' ≤ lower ∧ lower ≤ 'f' then some (lower.toNat - 'a'.toNat + 10)
  else none

/-- A hexadecimal digit, of which `ten` is the form of the first letter. -/
def hexDigit (ten : Char) (value : Nat) : Char :=
  if value < 10 then Char.ofNat ('0'.toNat + value) else Char.ofNat (ten.toNat + (value - 10))

/-- A number in a fixed count of hexadecimal digits, the most significant first. -/
def hexDigits (ten : Char) : Nat → Nat → List Char
  | 0, _ => []
  | count + 1, value => hexDigits ten count (value / 16) ++ [hexDigit ten (value % 16)]

end Text

end ServingPreset
