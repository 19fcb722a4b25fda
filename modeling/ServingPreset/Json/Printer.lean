import ServingPreset.Json.Value
import ServingPreset.Number.DecimalText
import ServingPreset.Text.Ascii

/-!
# Printing JSON values

The compact text of a value: no white space, members in the order of the object, and
in strings only the quote, the backslash and the control characters escaped. A real
number is printed by its exact decimal value.
-/

namespace ServingPreset

namespace Json

/-- A character as it stands in a string. -/
def printChar (char : Char) : List Char :=
  if char = '"' then ['\\', '"']
  else if char = '\\' then ['\\', '\\']
  else if char = '\n' then ['\\', 'n']
  else if char = '\r' then ['\\', 'r']
  else if char = '\t' then ['\\', 't']
  else if char = '\x08' then ['\\', 'b']
  else if char = '\x0c' then ['\\', 'f']
  else if char.toNat < 0x20 then '\\' :: 'u' :: Text.hexDigits 'a' 4 char.toNat
  else [char]

/-- A text between quotes. -/
def printText (text : String) : List Char :=
  '"' :: text.toList.flatMap printChar ++ ['"']

/-- A number. -/
def printNumber : Number → List Char
  | .integer value =>
      if value < 0 then '-' :: (DecimalText.render value.natAbs).toList
      else (DecimalText.render value.natAbs).toList
  | .real negative magnitude =>
      let digits := DecimalText.render (magnitude.gridSteps * Nat.pow 5 1074)
      (if negative then ['-'] else []) ++ digits.toList ++ "e-1074".toList

mutual

/-- A value. -/
def printValue : Value → List Char
  | .null => "null".toList
  | .bool value => if value then "true".toList else "false".toList
  | .number number => printNumber number
  | .string text => printText text
  | .array elements => '[' :: printElements elements ++ [']']
  | .object members => '\x7b' :: printMembers members ++ ['\x7d']

/-- The elements of an array, separated by commas. -/
def printElements : List Value → List Char
  | [] => []
  | [last] => printValue last
  | first :: second :: rest => printValue first ++ ',' :: printElements (second :: rest)

/-- The members of an object, separated by commas. -/
def printMembers : List (String × Value) → List Char
  | [] => []
  | [(name, value)] => printText name ++ ':' :: printValue value
  | (name, value) :: second :: rest =>
      printText name ++ ':' :: printValue value ++ ',' :: printMembers (second :: rest)

end

/-- The compact text of a value. -/
def Value.render (value : Value) : String :=
  String.ofList (printValue value)

end Json

end ServingPreset
