import ServingPreset.Number.DecimalText
import ServingPreset.Text.Ascii

/-!
# YAML scalars

How a text is written as a YAML scalar. A text stands plain where it is read back as
that text. It is quoted where a reader could take it for something else, and where its
characters have a meaning of their own. A text of several lines is written as a literal
block, and what cannot stand in any of these forms goes between double quotes with
escapes. Lines are never folded.
-/

namespace ServingPreset

namespace Yaml

/-- Whether a character ends a line. -/
def isBreak (char : Char) : Bool :=
  char = '\n' || char = '\r' || char = '\u0085' || char = '\u2028' || char = '\u2029'

/-- Whether a character is a space, a tab, a line end or the end of the text. -/
def isGap (char : Char) : Bool :=
  char = ' ' || char = '\t' || char = '\x00' || isBreak char

/-- Whether a character can be shown: no control character, byte order mark or noncharacter. -/
def isPrintable (char : Char) : Bool :=
  let code := char.toNat
  code = 0x0A || (0x20 ≤ code && code ≤ 0x7E) || (0xA0 ≤ code && code ≤ 0xFEFE) ||
    (0xFF00 ≤ code && code ≤ 0xFFFD) || 0x10000 ≤ code

/-- How a scalar is written. -/
inductive Style where
  | plain
  | singleQuoted
  | doubleQuoted
  | literal
deriving DecidableEq, Repr, Inhabited

/-- The characters that open something other than a plain scalar. -/
def indicators : List Char :=
  ['#', ',', '[', ']', '\x7b', '\x7d', '&', '*', '!', '|', '>', '\'', '"', '%', '@', '\x60']

/-- Whether a gap or the end of the text begins the characters. -/
def gapAhead (chars : List Char) : Bool :=
  (chars.head?.map isGap).getD true

/-- Whether the first character makes a plain scalar impossible. -/
def indicatorAtStart : List Char → Bool
  | [] => false
  | first :: rest =>
      indicators.contains first ||
        ((first = '?' || first = ':' || first = '-') && gapAhead rest)

/-- Whether a colon before a gap or a hash behind one follows the character `before`. -/
def indicatorInside (before : Char) : List Char → Bool
  | [] => false
  | char :: rest =>
      (char = ':' && gapAhead rest) || (char = '#' && isGap before) || indicatorInside char rest

/-- Whether the text looks like the border of a document. -/
def isBorder (chars : List Char) : Bool :=
  ['-', '-', '-'].isPrefixOf chars || ['.', '.', '.'].isPrefixOf chars

/-- Whether indicators keep the text from standing plain. -/
def hasIndicator (chars : List Char) : Bool :=
  isBorder chars || indicatorAtStart chars ||
    match chars with
    | [] => false
    | first :: rest => indicatorInside first rest

/-- Whether two neighbouring characters satisfy a pair of conditions. -/
def hasNeighbours (left right : Char → Bool) (chars : List Char) : Bool :=
  (chars.zip (chars.drop 1)).any fun pair => left pair.1 && right pair.2

/-- Whether a space or a line end stands at the edge of the text. -/
def isOuterGap (edge : Option Char) : Bool :=
  (edge.map fun char => char = ' ' || isBreak char).getD false

/-- Whether a text can stand plain. -/
def allowsPlain (chars : List Char) : Bool :=
  !isOuterGap chars.head? && !isOuterGap chars.getLast? && chars.all isPrintable &&
    !chars.any isBreak && !hasIndicator chars

/-- Whether a text can stand between single quotes. -/
def allowsSingleQuotes (chars : List Char) : Bool :=
  chars.all isPrintable && !hasNeighbours isBreak (· = ' ') chars &&
    !hasNeighbours (· = ' ') isBreak chars

/-- Whether a text can be written as a literal block. -/
def allowsLiteral (chars : List Char) : Bool :=
  !chars.isEmpty && chars.getLast? != some ' ' && chars.all isPrintable &&
    !hasNeighbours (· = ' ') isBreak chars

/-- The words, in lower case, that some reader takes for nothing, a truth value or a number. -/
def reservedWords : List String :=
  ["true", "false", "yes", "no", "on", "off", "y", "n", "null", "nil", "~", "nan"]

/-- Whether a number, in one notation or another, could begin with a character. -/
def opensNumber (char : Char) : Bool :=
  DecimalText.isDigit char || char = '+' || char = '-' || char = '.'

/--
Whether a reader could take a text for something other than a text: it is empty, it begins
like a number, or it is a reserved word in some mix of cases. Reserved words are ASCII, and
so are the letters that count as their capitals.
-/
def isAmbiguous (chars : List Char) : Bool :=
  chars.isEmpty || (chars.head?.map opensNumber).getD false ||
    reservedWords.any fun word => word.toList = chars.map Text.lowerAscii

/-- The style in which a text would best be written. -/
def preferredStyle (chars : List Char) : Style :=
  if chars.contains '\n' then .literal
  else if isAmbiguous chars then .singleQuoted
  else .plain

/-- The style in which a text is written: the preferred one, or one that can hold it. -/
def styleOf (chars : List Char) : Style :=
  let quoted := if allowsSingleQuotes chars then Style.singleQuoted else .doubleQuoted
  match preferredStyle chars with
  | .plain => if allowsPlain chars then .plain else quoted
  | .literal => if allowsLiteral chars then .literal else .doubleQuoted
  | _ => quoted

/-- The letters that escape some characters. -/
def shortEscapes : List (Char × Char) :=
  [('\x00', '0'), ('\x07', 'a'), ('\x08', 'b'), ('\t', 't'), ('\n', 'n'), ('\x0b', 'v'),
    ('\x0c', 'f'), ('\r', 'r'), ('\x1b', 'e'), ('"', '"'), ('\\', '\\'), ('\u0085', 'N'),
    ('\u00a0', '_'), ('\u2028', 'L'), ('\u2029', 'P')]

/-- The escape of a character. -/
def escape (char : Char) : List Char :=
  match shortEscapes.find? (fun row => row.1 = char) with
  | some row => ['\\', row.2]
  | none =>
      let code := char.toNat
      if code ≤ 0xFF then '\\' :: 'x' :: Text.hexDigits 'A' 2 code
      else if code ≤ 0xFFFF then '\\' :: 'u' :: Text.hexDigits 'A' 4 code
      else '\\' :: 'U' :: Text.hexDigits 'A' 8 code

/-- A text between double quotes. -/
def doubleQuoted (chars : List Char) : List Char :=
  '"' :: (chars.flatMap fun char =>
    if !isPrintable char || isBreak char || char = '"' || char = '\\' then escape char
    else [char]) ++ ['"']

/-- The spaces that begin a line. -/
def margin (indent : Nat) : List Char :=
  List.replicate indent ' '

/-- Characters with a margin where a line begins; `atStart` says whether one begins here. -/
def withMargins (indent : Nat) (atStart : Bool) (before : Char → List Char) :
    List Char → List Char
  | [] => []
  | char :: rest =>
      if isBreak char then char :: withMargins indent true before rest
      else
        (if atStart then margin indent else []) ++ before char ++ char ::
          withMargins indent false before rest

/-- Whether the text ends with a line end. -/
def endsLine (chars : List Char) : Bool :=
  (chars.getLast?.map isBreak).getD false

/-- A text between single quotes: a quote is written twice, and lines begin with a margin. -/
def singleQuoted (indent : Nat) (chars : List Char) : List Char :=
  let double (char : Char) : List Char := if char = '\'' then ['\''] else []
  '\'' :: withMargins indent false double chars ++
    (if endsLine chars then margin indent else []) ++ ['\'']

/-- The sign that says how the line ends at the end of a block are kept. -/
def chompingSign (chars : List Char) : List Char :=
  match chars.reverse with
  | [] => ['-']
  | [last] => if isBreak last then ['+'] else ['-']
  | last :: previous :: _ =>
      if !isBreak last then ['-'] else if isBreak previous then ['+'] else []

/-- The width of an indentation step. -/
def indentStep : Nat := 2

/-- A text as a literal block, which ends with a line end exactly if the text does. -/
def literal (indent : Nat) (chars : List Char) : List Char :=
  let sign := if isOuterGap chars.head? then (DecimalText.render indentStep).toList else []
  '|' :: sign ++ chompingSign chars ++ '\n' :: withMargins indent true (fun _ => []) chars

/-- A text as a scalar whose further lines are indented, up to the end of its last line. -/
def scalar (indent : Nat) (text : String) : List Char :=
  let chars := text.toList
  match styleOf chars with
  | .plain => chars ++ ['\n']
  | .singleQuoted => singleQuoted indent chars ++ ['\n']
  | .doubleQuoted => doubleQuoted chars ++ ['\n']
  | .literal =>
      literal indent chars ++ (if endsLine chars then [] else ['\n'])

end Yaml

end ServingPreset
