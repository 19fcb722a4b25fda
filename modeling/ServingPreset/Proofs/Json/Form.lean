import ServingPreset.Json.Numeral

/-!
# Written JSON

How a JSON value is written. A `Form` holds all that a text decides and a value forgets: the
white space around the pieces, the characters that are escaped and how, the order of the
members, and the digits of a numeral. Every JSON text is the text of a form, because a form is
built by the rules of the grammar and by nothing else; what a rule excludes, such as a leading
zero or a bare control character, its type excludes.

A form need not state a value. An escaped surrogate without its partner is no character
(`Piece.chars?`), and a numeral beyond the greatest number is none (`Numeral.number?`).
-/

namespace ServingPreset

namespace Json

/-! ### White space -/

/-- A mark of white space. -/
inductive Space where
  | blank
  | tab
  | lineFeed
  | carriageReturn
deriving DecidableEq, Repr

/-- The byte of a mark. -/
def Space.octet : Space → UInt8
  | blank => 0x20
  | tab => 0x09
  | lineFeed => 0x0A
  | carriageReturn => 0x0D

/-- White space beside a piece. -/
abbrev Margin := List Space

/-- The bytes of white space. -/
def Margin.bytes (margin : Margin) : Bytes :=
  margin.map Space.octet

@[simp]
theorem Margin.bytes_nil : Margin.bytes [] = [] :=
  rfl

/-- A piece with white space on both sides. -/
structure Padded (Content : Type) where
  before : Margin
  content : Content
  after : Margin

namespace Padded

variable {Content Other : Type}

/-- Change the piece and keep the white space. -/
def map (change : Content → Other) (padded : Padded Content) : Padded Other :=
  ⟨padded.before, change padded.content, padded.after⟩

/-- The bytes of a piece and of the white space beside it. -/
def bytes (write : Content → Bytes) (padded : Padded Content) : Bytes :=
  padded.before.bytes ++ write padded.content ++ padded.after.bytes

end Padded

/-! ### Strings -/

/-- A byte that is a hexadecimal digit. -/
structure HexDigit where
  octet : UInt8
  isHex : (hexValue? octet).isSome = true := by decide
deriving DecidableEq

/-- The value of a hexadecimal digit. -/
def HexDigit.value (digit : HexDigit) : Nat :=
  (hexValue? digit.octet).get digit.isHex

/-- The four hexadecimal digits of a `u` escape. -/
structure CodeUnit where
  first : HexDigit
  second : HexDigit
  third : HexDigit
  fourth : HexDigit
deriving DecidableEq

namespace CodeUnit

/-- The bytes of the digits. -/
def bytes (unit : CodeUnit) : Bytes :=
  [unit.first.octet, unit.second.octet, unit.third.octet, unit.fourth.octet]

/-- The number that the digits state. -/
def value (unit : CodeUnit) : Nat :=
  16 * (16 * (16 * unit.first.value + unit.second.value) + unit.third.value) + unit.fourth.value

end CodeUnit

/-- The characters that have an escape of one letter. -/
inductive Escape where
  | quote
  | backslash
  | slash
  | backspace
  | formFeed
  | lineFeed
  | carriageReturn
  | tab
deriving DecidableEq, Repr

namespace Escape

/-- The letter behind the backslash. -/
def letter : Escape → Char
  | quote => '"'
  | backslash => '\\'
  | slash => '/'
  | backspace => 'b'
  | formFeed => 'f'
  | lineFeed => 'n'
  | carriageReturn => 'r'
  | tab => 't'

/-- The character that is meant. -/
def char : Escape → Char
  | quote => '"'
  | backslash => '\\'
  | slash => '/'
  | backspace => '\x08'
  | formFeed => '\x0c'
  | lineFeed => '\n'
  | carriageReturn => '\r'
  | tab => '\t'

end Escape

/-- A piece of a string. -/
inductive Piece where
  /-- A character that stands for itself. -/
  | plain (char : Char) (unescaped : char ≠ '"' ∧ char ≠ '\\' ∧ 0x20 ≤ char.toNat)
  | escaped (escape : Escape)
  | unit (code : CodeUnit)
deriving DecidableEq

namespace Piece

/-- The bytes of a piece. -/
def bytes : Piece → Bytes
  | plain char _ => String.utf8EncodeChar char
  | escaped escape => [byte '\\', byte escape.letter]
  | unit code => byte '\\' :: byte 'u' :: code.bytes

/-- The bytes of a string with its quotes. -/
def quoted (pieces : List Piece) : Bytes :=
  byte '"' :: (pieces.flatMap bytes ++ [byte '"'])

/-- The character of two surrogates. -/
def ofSurrogates (high low : CodeUnit) : Char :=
  Char.ofNat (0x10000 + (high.value - 0xD800) * 0x400 + (low.value - 0xDC00))

/-- The characters of a string, if its surrogates come in pairs, the leading one first. -/
def chars? : List Piece → Option (List Char)
  | [] => some []
  | plain char _ :: later => (chars? later).map (char :: ·)
  | escaped escape :: later => (chars? later).map (escape.char :: ·)
  | unit first :: later =>
      if isTrailingSurrogate first.value then none
      else if isLeadingSurrogate first.value then
        match later with
        | unit second :: others =>
            if isTrailingSurrogate second.value then
              (chars? others).map (ofSurrogates first second :: ·)
            else none
        | _ => none
      else (chars? later).map (Char.ofNat first.value :: ·)

/-- The text of a string. -/
def text? (pieces : List Piece) : Option String :=
  (chars? pieces).map String.ofList

end Piece

/-! ### Numerals -/

/-- The byte of a decimal digit. -/
def digitOctet (digit : Fin 10) : UInt8 :=
  UInt8.ofNat (0x30 + digit)

/-- One or more decimal digits. -/
structure Digits where
  first : Fin 10
  later : List (Fin 10)
deriving DecidableEq, Repr

namespace Digits

def toList (digits : Digits) : List (Fin 10) :=
  digits.first :: digits.later

def bytes (digits : Digits) : Bytes :=
  digits.toList.map digitOctet

/-- The number that digits state. -/
def value (digits : Digits) : Nat :=
  digits.toList.foldl (fun value digit => 10 * value + digit.val) 0

end Digits

/-- The exponent of a numeral. -/
structure Exponent where
  /-- Whether it begins with `E`. -/
  capital : Bool
  /-- Whether a sign is written, and whether it is a minus. -/
  sign : Option Bool
  digits : Digits
deriving DecidableEq, Repr

namespace Exponent

def letter (exponent : Exponent) : UInt8 :=
  byte (if exponent.capital then 'E' else 'e')

/-- The bytes behind the letter. -/
def behindLetter (exponent : Exponent) : Bytes :=
  match exponent.sign with
  | none => exponent.digits.bytes
  | some negative => byte (if negative then '-' else '+') :: exponent.digits.bytes

def bytes (exponent : Exponent) : Bytes :=
  exponent.letter :: exponent.behindLetter

/-- The power of ten that an exponent states. -/
def value (exponent : Exponent) : Int :=
  if exponent.sign = some true then -exponent.digits.value else exponent.digits.value

end Exponent

/-- A numeral. A leading zero stands alone. -/
structure Numeral where
  negative : Bool := false
  whole : Digits
  fraction : Option Digits := none
  exponent : Option Exponent := none
  leading : whole.first = 0 → whole.later = [] := by decide
deriving DecidableEq

namespace Numeral

def fractionBytes (numeral : Numeral) : Bytes :=
  match numeral.fraction with
  | none => []
  | some digits => byte '.' :: digits.bytes

def exponentBytes (numeral : Numeral) : Bytes :=
  match numeral.exponent with
  | none => []
  | some exponent => exponent.bytes

/-- The bytes of a numeral without its sign. -/
def unsignedBytes (numeral : Numeral) : Bytes :=
  numeral.whole.bytes ++ numeral.fractionBytes ++ numeral.exponentBytes

def bytes (numeral : Numeral) : Bytes :=
  (if numeral.negative then [byte '-'] else []) ++ numeral.unsignedBytes

/-- The first byte of a numeral. -/
def opening (numeral : Numeral) : UInt8 :=
  if numeral.negative then byte '-' else digitOctet numeral.whole.first

theorem exists_bytes_eq_cons (numeral : Numeral) :
    ∃ later, numeral.bytes = numeral.opening :: later := by
  rw [bytes, opening]
  cases numeral.negative with
  | true => exact ⟨_, rfl⟩
  | false => exact ⟨_, rfl⟩

end Numeral

/-! ### Values -/

/-- A member of an object: a name and a value on both sides of a colon. -/
structure Member (Content : Type) where
  name : List Piece
  afterName : Margin
  beforeValue : Margin
  value : Content

/-- The bytes of a member. -/
def Member.bytes {Content : Type} (write : Content → Bytes) (member : Member Content) : Bytes :=
  Piece.quoted member.name ++ member.afterName.bytes ++
    byte ':' :: (member.beforeValue.bytes ++ write member.value)

/-- A member stands in front of what follows it piece by piece. -/
theorem Member.bytes_append {Content : Type} (write : Content → Bytes) (member : Member Content)
    (rest : Bytes) :
    member.bytes write ++ rest = byte '"' :: (member.name.flatMap Piece.bytes ++
      byte '"' :: (member.afterName.bytes ++ byte ':' :: (member.beforeValue.bytes ++
        (write member.value ++ rest)))) := by
  simp [Member.bytes, Piece.quoted]

/-- A JSON value as it is written. The margin of an array or object is the white space that
stands in it even if nothing else does. -/
inductive Form where
  | null
  | bool (value : Bool)
  | numeral (numeral : Numeral)
  | string (pieces : List Piece)
  | array (margin : Margin) (elements : List (Padded Form))
  | object (margin : Margin) (members : List (Padded (Member Form)))

/-- Entries with commas between them. -/
def separated : List Bytes → Bytes
  | [] => []
  | first :: later => first ++ later.flatMap (byte ',' :: ·)

/-- Entries between two brackets. -/
def bracketed (opening closing : Char) (margin : Margin) (entries : List Bytes) : Bytes :=
  byte opening :: (margin.bytes ++ separated entries ++ [byte closing])

mutual

/-- The bytes of a value. -/
def Form.bytes : Form → Bytes
  | .null => "null".toList.map byte
  | .bool value => (if value then "true" else "false").toList.map byte
  | .numeral numeral => numeral.bytes
  | .string pieces => Piece.quoted pieces
  | .array margin elements => bracketed '[' ']' margin (elementTexts elements)
  | .object margin members => bracketed '\x7b' '\x7d' margin (memberTexts members)

/-- The bytes of the elements of an array. -/
def elementTexts : List (Padded Form) → List Bytes
  | [] => []
  | ⟨before, form, after⟩ :: later =>
      (before.bytes ++ form.bytes ++ after.bytes) :: elementTexts later

/-- The bytes of the members of an object. -/
def memberTexts : List (Padded (Member Form)) → List Bytes
  | [] => []
  | ⟨before, ⟨name, afterName, beforeValue, form⟩, after⟩ :: later =>
      (before.bytes ++ (Piece.quoted name ++ afterName.bytes ++
        byte ':' :: (beforeValue.bytes ++ form.bytes)) ++ after.bytes) :: memberTexts later

end

theorem elementTexts_eq_map (elements : List (Padded Form)) :
    elementTexts elements = elements.map (Padded.bytes Form.bytes) := by
  induction elements with
  | nil => rfl
  | cons element later ih => rw [elementTexts, ih, List.map_cons, Padded.bytes]

theorem memberTexts_eq_map (members : List (Padded (Member Form))) :
    memberTexts members = members.map (Padded.bytes (Member.bytes Form.bytes)) := by
  induction members with
  | nil => rfl
  | cons member later ih => rw [memberTexts, ih, List.map_cons, Padded.bytes, Member.bytes]

/-- The first byte of a value, which decides what kind of value it is. -/
def Form.opening : Form → UInt8
  | .null => byte 'n'
  | .bool holds => byte (if holds then 't' else 'f')
  | .numeral written => written.opening
  | .string _ => byte '"'
  | .array _ _ => byte '['
  | .object _ _ => byte '\x7b'

theorem Form.exists_bytes_eq_cons (form : Form) :
    ∃ later, form.bytes = form.opening :: later := by
  cases form with
  | null => exact ⟨_, rfl⟩
  | bool holds => cases holds <;> exact ⟨_, rfl⟩
  | numeral written => exact written.exists_bytes_eq_cons
  | string pieces => exact ⟨_, rfl⟩
  | array margin elements => exact ⟨_, rfl⟩
  | object margin members => exact ⟨_, rfl⟩

/-- The bytes of a document. -/
def documentBytes (document : Padded Form) : Bytes :=
  document.bytes Form.bytes

theorem documentBytes_unpadded (form : Form) : documentBytes ⟨[], form, []⟩ = form.bytes := by
  simp [documentBytes, Padded.bytes]

end Json

end ServingPreset
