import ServingPreset.Json.Scan
import ServingPreset.Json.Value
import ServingPreset.Number.Word

/-!
# Numbers in JSON text

A numeral without point and exponent is an integer as long as it fits a 64-bit
word; `-0` and every other numeral is a floating-point number. Such a number keeps
as many leading digits as fit an unsigned word, and scales them by a power of ten
in one rounded multiplication or division, or in several when the exponent is below
-308. A numeral beyond the greatest number is not JSON. A numeral that is skipped is
only delimited; its magnitude does not matter, and an early end counts as malformed.
-/

namespace ServingPreset

namespace Json

/-- Scale a number by a power of ten; nothing when it grows beyond the greatest number. -/
def scale? (number : Binary64) (exponent : Int) : Option Binary64 :=
  if exponent.natAbs ≤ 308 then
    if 0 ≤ exponent then
      let product := number.mul (Binary64.ofDecimal 1 exponent)
      if product.isFinite then some product else none
    else some (number.div (Binary64.ofDecimal 1 (-exponent)))
  else if number = Binary64.zero then some number
  else if 0 ≤ exponent then none
  else scale? (number.div (Binary64.ofDecimal 1 308)) (exponent + 308)
termination_by exponent.natAbs
decreasing_by omega

/-- Extend a significand by digits while it fits an unsigned word; the digits left over. -/
def absorb (significand : Nat) : List UInt8 → Nat × List UInt8
  | [] => (significand, [])
  | digit :: rest =>
      let extended := 10 * significand + digitValue digit
      if extended ≤ maxUnsigned then absorb extended rest else (significand, digit :: rest)

/-- The number of a significand and a power of ten. -/
def readScaled (negative : Bool) (significand : Nat) (exponent : Int) : Reader Number :=
  fun bytes =>
    match scale? (Binary64.ofNat significand) exponent with
    | some magnitude => .ok (.real negative magnitude, bytes)
    | none => .error .malformed

/-- Read the exponent of a numeral, of which the sign is optional, behind its letter. -/
def readExponent (negative : Bool) (significand : Nat) (exponent : Int) : Reader Number :=
  fun bytes =>
    let (lowers, digitsOn) := match bytes with
      | octet :: rest =>
          if octet = byte '-' then (true, rest)
          else if octet = byte '+' then (false, rest)
          else (false, octet :: rest)
      | [] => (false, [])
    match digitsOn with
    | [] => .error .truncated
    | first :: _ =>
        if isDigit first then
          let digits := digitsOn.takeWhile isDigit
          let power : Int := digits.foldl (fun value digit => 10 * value + digitValue digit) 0
          readScaled negative significand (if lowers then exponent - power else exponent + power)
            (digitsOn.dropWhile isDigit)
        else .error .malformed

/-- Read an exponent if there is one. -/
def readOptionalExponent (negative : Bool) (significand : Nat) (exponent : Int) :
    Reader Number
  | octet :: rest =>
      if octet = byte 'e' || octet = byte 'E' then
        readExponent negative significand exponent rest
      else readScaled negative significand exponent (octet :: rest)
  | [] => readScaled negative significand exponent []

/-- Read the digits behind the point of a numeral. -/
def readFraction (negative : Bool) (significand : Nat) (exponent : Int) : Reader Number :=
  fun bytes =>
    let digits := bytes.takeWhile isDigit
    if digits.isEmpty then
      .error (if bytes.isEmpty then .truncated else .malformed)
    else
      let (extended, unused) := absorb significand digits
      readOptionalExponent negative extended (exponent - (digits.length - unused.length : Nat))
        (bytes.dropWhile isDigit)

/-- The number of an integer numeral whose digits fit an unsigned word. -/
def integerNumber (negative : Bool) (magnitude : Nat) : Number :=
  if !negative then .integer magnitude
  else if magnitude = 0 || Nat.pow 2 63 < magnitude then .real true (Binary64.ofNat magnitude)
  else .integer (-(magnitude : Int))

/-- Read what follows the integer digits of a numeral, of which `dropped` are left over. -/
def readAfterWhole (negative : Bool) (significand dropped : Nat) : Reader Number
  | octet :: rest =>
      if octet = byte '.' then readFraction negative significand dropped rest
      else if octet = byte 'e' || octet = byte 'E' then
        readExponent negative significand dropped rest
      else if dropped = 0 then .ok (integerNumber negative significand, octet :: rest)
      else readScaled negative significand dropped (octet :: rest)
  | [] =>
      if dropped = 0 then .ok (integerNumber negative significand, [])
      else readScaled negative significand dropped []

/-- Read a numeral whose sign has been taken. A leading zero stands alone. -/
def readNumber (negative : Bool) : Reader Number
  | [] => .error .truncated
  | first :: rest =>
      if first = byte '0' then
        if (rest.head?.map isDigit).getD false then .error .malformed
        else readAfterWhole negative 0 0 rest
      else if isDigit first then
        let digits := (first :: rest).takeWhile isDigit
        let (significand, dropped) := absorb 0 digits
        readAfterWhole negative significand dropped.length ((first :: rest).dropWhile isDigit)
      else .error .malformed

/-- The input behind the exponent of a skipped numeral. -/
def skipExponent (bytes : Bytes) : Except Defect Bytes :=
  let digitsOn := match bytes with
    | octet :: rest =>
        if octet = byte '-' || octet = byte '+' then rest else octet :: rest
    | [] => []
  if (digitsOn.head?.map isDigit).getD false then .ok (digitsOn.dropWhile isDigit)
  else .error .malformed

/-- The input behind an exponent if there is one. -/
def skipOptionalExponent : Bytes → Except Defect Bytes
  | octet :: rest =>
      if octet = byte 'e' || octet = byte 'E' then skipExponent rest else .ok (octet :: rest)
  | [] => .ok []

/-- The input behind the fraction and the exponent of a skipped numeral. -/
def skipAfterWhole : Bytes → Except Defect Bytes
  | octet :: rest =>
      if octet = byte '.' then
        if (rest.head?.map isDigit).getD false then
          skipOptionalExponent (rest.dropWhile isDigit)
        else .error .malformed
      else skipOptionalExponent (octet :: rest)
  | [] => .ok []

/-- The input behind a skipped numeral whose sign has been taken. -/
def skipNumber : Bytes → Except Defect Bytes
  | [] => .error .malformed
  | first :: rest =>
      if first = byte '0' then
        if (rest.head?.map isDigit).getD false then .error .malformed
        else skipAfterWhole rest
      else if isDigit first then skipAfterWhole (rest.dropWhile isDigit)
      else .error .malformed

end Json

end ServingPreset
