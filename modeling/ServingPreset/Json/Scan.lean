/-!
# Scanning JSON text

The lexical pieces of a JSON document over its bytes. A `Reader` takes a value off
the front of the input or names the first defect met from left to right: the input
ended too early, it is not JSON, or it is JSON of the wrong shape. Strings are read
in two ways. A string that is kept must decode to text; a string that is skipped
need only be delimited, so that its escapes are well formed.
-/

namespace ServingPreset

namespace Json

/-- The input of a reader: the bytes that are still to be read. -/
abbrev Bytes := List UInt8

/-- Why reading a document stops. -/
inductive Defect where
  | truncated
  | malformed
  /-- The input is JSON so far, but not of the expected shape. -/
  | unsuited
deriving DecidableEq, Repr, Inhabited

namespace Defect

/-- The name under which a defect is reported. -/
def label : Defect → String
  | truncated => "eof"
  | malformed => "syntax"
  | unsuited => "data"

end Defect

/-- A step that reads a value off the front of the input. -/
abbrev Reader (Result : Type) := Bytes → Except Defect (Result × Bytes)

/-- The byte of an ASCII character. -/
def byte (char : Char) : UInt8 := char.toNat.toUInt8

/-- Space, tab, line feed and carriage return, the white space between lexical pieces. -/
def isSpace (octet : UInt8) : Bool :=
  octet = 0x20 || octet = 0x09 || octet = 0x0A || octet = 0x0D

/-- The input behind leading white space. -/
def skipSpace (bytes : Bytes) : Bytes :=
  bytes.dropWhile isSpace

/-- Whether a byte is an ASCII digit. -/
def isDigit (octet : UInt8) : Bool :=
  0x30 ≤ octet && octet ≤ 0x39

/-- The value of a digit. -/
def digitValue (octet : UInt8) : Nat :=
  octet.toNat - 0x30

/-- The input behind an expected word. -/
def expectWord : List Char → Bytes → Except Defect Bytes
  | [], bytes => .ok bytes
  | _ :: _, [] => .error .truncated
  | char :: word, octet :: rest =>
      if octet = byte char then expectWord word rest else .error .malformed

/-- The value of a hexadecimal digit of either case. -/
def hexValue? (octet : UInt8) : Option Nat :=
  if isDigit octet then some (digitValue octet)
  else if byte 'a' ≤ octet && octet ≤ byte 'f' then some (octet.toNat - 'a'.toNat + 10)
  else if byte 'A' ≤ octet && octet ≤ byte 'F' then some (octet.toNat - 'A'.toNat + 10)
  else none

/-- The value of hexadecimal digits, the last one first. -/
def hexNumber? : List UInt8 → Option Nat
  | [] => some 0
  | last :: before => do return 16 * (← hexNumber? before) + (← hexValue? last)

/-- The byte that a one-letter escape stands for. -/
def escapedByte? (octet : UInt8) : Option UInt8 :=
  if octet = byte '"' || octet = byte '\\' || octet = byte '/' then some octet
  else if octet = byte 'b' then some 0x08
  else if octet = byte 'f' then some 0x0C
  else if octet = byte 'n' then some 0x0A
  else if octet = byte 'r' then some 0x0D
  else if octet = byte 't' then some 0x09
  else none

/-- Where a scan stands inside a kept string. -/
inductive TextState where
  | plain
  | escape
  /-- Inside the digits of a `u` escape, of which those seen are held in reverse. -/
  | hex (lead : Option Nat) (digits : List UInt8)
  /-- Behind the escape of a leading surrogate. -/
  | lead (lead : Nat)
  /-- Behind the backslash that follows a leading surrogate. -/
  | leadEscape (lead : Nat)

/-- Whether a code unit is a leading surrogate. -/
def isLeadingSurrogate (unit : Nat) : Bool := 0xD800 ≤ unit && unit ≤ 0xDBFF

/-- Whether a code unit is a trailing surrogate. -/
def isTrailingSurrogate (unit : Nat) : Bool := 0xDC00 ≤ unit && unit ≤ 0xDFFF

/-- The bytes of a code point in reverse. -/
def reversedUtf8 (code : Nat) : List UInt8 :=
  (String.utf8EncodeChar (Char.ofNat code)).reverse

/--
Read the rest of a kept string. The bytes decoded so far are held in reverse; they
are checked to be UTF-8 when the closing quote is met.
-/
def scanText : TextState → List UInt8 → Reader String
  | _, _, [] => .error .truncated
  | .plain, decoded, octet :: rest =>
      if octet = byte '"' then
        match String.fromUTF8? ⟨decoded.reverse.toArray⟩ with
        | some text => .ok (text, rest)
        | none => .error .malformed
      else if octet = byte '\\' then scanText .escape decoded rest
      else if octet < 0x20 then .error .malformed
      else scanText .plain (octet :: decoded) rest
  | .escape, decoded, octet :: rest =>
      if octet = byte 'u' then scanText (.hex none []) decoded rest
      else
        match escapedByte? octet with
        | some plain => scanText .plain (plain :: decoded) rest
        | none => .error .malformed
  | .hex lead digits, decoded, octet :: rest =>
      if digits.length < 3 then scanText (.hex lead (octet :: digits)) decoded rest
      else
        match hexNumber? (octet :: digits), lead with
        | none, _ => .error .malformed
        | some unit, none =>
            if isTrailingSurrogate unit then .error .malformed
            else if isLeadingSurrogate unit then scanText (.lead unit) decoded rest
            else scanText .plain (reversedUtf8 unit ++ decoded) rest
        | some unit, some high =>
            if isTrailingSurrogate unit then
              let code := 0x10000 + (high - 0xD800) * 0x400 + (unit - 0xDC00)
              scanText .plain (reversedUtf8 code ++ decoded) rest
            else .error .malformed
  | .lead high, decoded, octet :: rest =>
      if octet = byte '\\' then scanText (.leadEscape high) decoded rest
      else .error .malformed
  | .leadEscape high, decoded, octet :: rest =>
      if octet = byte 'u' then scanText (.hex (some high) []) decoded rest
      else .error .malformed

/-- Read a kept string whose opening quote has been taken. -/
def readText : Reader String :=
  scanText .plain []

/-- Where a scan stands inside a skipped string. -/
inductive SkippedState where
  | plain
  | escape
  /-- Inside the digits of a `u` escape, of which those seen are held in reverse. -/
  | hex (digits : List UInt8)

/-- The input behind a skipped string, of which neither characters nor surrogates matter. -/
def scanSkipped : SkippedState → Bytes → Except Defect Bytes
  | _, [] => .error .truncated
  | .plain, octet :: rest =>
      if octet = byte '"' then .ok rest
      else if octet = byte '\\' then scanSkipped .escape rest
      else if octet < 0x20 then .error .malformed
      else scanSkipped .plain rest
  | .escape, octet :: rest =>
      if octet = byte 'u' then scanSkipped (.hex []) rest
      else if (escapedByte? octet).isSome then scanSkipped .plain rest
      else .error .malformed
  | .hex digits, octet :: rest =>
      if digits.length < 3 then scanSkipped (.hex (octet :: digits)) rest
      else if (hexNumber? (octet :: digits)).isSome then scanSkipped .plain rest
      else .error .malformed

/-- The input behind a string that is skipped and whose opening quote has been taken. -/
def skipText : Bytes → Except Defect Bytes :=
  scanSkipped .plain

end Json

end ServingPreset
