import ServingPreset.Text.Ascii

/-!
# Percent escapes

A percent sign and two hexadecimal digits stand for a byte. Escaping a character writes
the bytes of its UTF-8 form; decoding leaves a percent sign alone that no two digits follow.
-/

namespace ServingPreset

namespace PercentEscape

/-- The escapes of the bytes of a character. -/
def ofChar (char : Char) : List Char :=
  (String.utf8EncodeChar char).flatMap fun octet =>
    '%' :: Text.hexDigits 'A' 2 octet.toNat

/-- Whether a character is a control character or lies outside ASCII. -/
def isExotic (char : Char) : Bool :=
  char.toNat < 0x20 || 0x7F ≤ char.toNat

/-- The characters with escapes for the exotic ones and for those of `escaped`. -/
def encode (escaped : List Char) (chars : List Char) : List Char :=
  chars.flatMap fun char =>
    if isExotic char || escaped.contains char then ofChar char else [char]

/-- The bytes that characters with escapes stand for. -/
def decode : List Char → List UInt8
  | [] => []
  | [char] => String.utf8EncodeChar char
  | [char, last] => String.utf8EncodeChar char ++ String.utf8EncodeChar last
  | char :: high :: low :: rest =>
      match char, Text.hexValue? high, Text.hexValue? low with
      | '%', some upper, some lower => UInt8.ofNat (16 * upper + lower) :: decode rest
      | _, _, _ => String.utf8EncodeChar char ++ decode (high :: low :: rest)

end PercentEscape

end ServingPreset
