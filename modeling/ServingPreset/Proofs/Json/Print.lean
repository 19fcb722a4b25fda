import Mathlib.Data.List.Nodup
import ServingPreset.Json.Printer
import ServingPreset.Proofs.Json.Fields
import ServingPreset.Proofs.Json.Record
import ServingPreset.Proofs.Number.DecimalText

/-!
# Printed values

The text of a value is one of the ways to write it: printing follows the grammar
(`bytes_render`), and each printed string states the text that was printed (`text?_ofText`). So
whatever holds of all written values holds of the printed ones. What is left of a printed object
when members are removed states the other members as they were (`stated?_printedStatements`).
-/

namespace ServingPreset

namespace Json

/-! ### Strings -/

/-- A hexadecimal digit as it is printed. -/
def HexDigit.ofFin (value : Fin 16) : HexDigit :=
  ⟨byte (Text.hexDigit 'a' value), by revert value; decide⟩

/-- The digits of the escape of a control character. -/
def CodeUnit.ofControl (code : Fin 32) : CodeUnit :=
  ⟨.ofFin 0, .ofFin 0, .ofFin ⟨code / 16, by omega⟩, .ofFin ⟨code % 16, by omega⟩⟩

theorem CodeUnit.value_ofControl (code : Fin 32) : (ofControl code).value = code := by
  revert code
  decide

namespace Piece

/-- A character as it is printed. -/
def ofChar (char : Char) : Piece :=
  if quote : char = '"' then .escaped .quote
  else if backslash : char = '\\' then .escaped .backslash
  else if char = '\n' then .escaped .lineFeed
  else if char = '\r' then .escaped .carriageReturn
  else if char = '\t' then .escaped .tab
  else if char = '\x08' then .escaped .backspace
  else if char = '\x0c' then .escaped .formFeed
  else if control : char.toNat < 0x20 then .unit (.ofControl ⟨char.toNat, control⟩)
  else .plain char ⟨quote, backslash, Nat.le_of_not_lt control⟩

/-- A text as it is printed. -/
def ofText (text : String) : List Piece :=
  text.toList.map ofChar

theorem flatMap_control {code : Nat} (control : code < 0x20) :
    ('\\' :: 'u' :: Text.hexDigits 'a' 4 code).flatMap String.utf8EncodeChar =
      (unit (.ofControl ⟨code, control⟩)).bytes := by
  have all : ∀ code : Fin 32,
      ('\\' :: 'u' :: Text.hexDigits 'a' 4 code).flatMap String.utf8EncodeChar =
        (unit (.ofControl code)).bytes := by
    decide
  exact all ⟨code, control⟩

theorem flatMap_printChar (char : Char) :
    (printChar char).flatMap String.utf8EncodeChar = (ofChar char).bytes := by
  simp only [printChar, ofChar]
  split_ifs with quote backslash lineFeed carriageReturn tab backspace formFeed control
  · rfl
  · rfl
  · rfl
  · rfl
  · rfl
  · rfl
  · rfl
  · exact flatMap_control control
  · exact List.flatMap_singleton _ _

theorem chars?_control_cons {char : Char} (control : char.toNat < 0x20) (later : List Piece) :
    chars? (unit (.ofControl ⟨char.toNat, control⟩) :: later) =
      (chars? later).map (char :: ·) := by
  have noTrailing : isTrailingSurrogate char.toNat = false := by
    simp [isTrailingSurrogate]
    omega
  have noLeading : isLeadingSurrogate char.toNat = false := by
    simp [isLeadingSurrogate]
    omega
  rw [chars?.eq_def]
  simp [CodeUnit.value_ofControl, noTrailing, noLeading, Char.ofNat_toNat]

theorem chars?_ofChar_cons (char : Char) (later : List Piece) :
    chars? (ofChar char :: later) = (chars? later).map (char :: ·) := by
  simp only [ofChar]
  split_ifs with quote backslash lineFeed carriageReturn tab backspace formFeed control
  · subst quote; rfl
  · subst backslash; rfl
  · subst lineFeed; rfl
  · subst carriageReturn; rfl
  · subst tab; rfl
  · subst backspace; rfl
  · subst formFeed; rfl
  · exact chars?_control_cons control later
  · rw [chars?]

/-- A printed string states its text. -/
theorem text?_ofText (text : String) : text? (ofText text) = some text := by
  have chars (chars : List Char) : chars? (chars.map ofChar) = some chars := by
    induction chars with
    | nil => rfl
    | cons char later ih => rw [List.map_cons, chars?_ofChar_cons, ih, Option.map_some]
  rw [text?, ofText, chars, Option.map_some, String.ofList_toList]

end Piece

/-! ### Numerals -/

namespace Digits

/-- The digits of a number, without leading zeros. -/
def ofNat (value : Nat) : Digits :=
  if value < 10 then ⟨Fin.ofNat 10 value, []⟩
  else ⟨(ofNat (value / 10)).first, (ofNat (value / 10)).later ++ [Fin.ofNat 10 value]⟩

theorem ofNat_of_lt {value : Nat} (single : value < 10) :
    ofNat value = ⟨Fin.ofNat 10 value, []⟩ := by
  rw [ofNat, if_pos single]

theorem toList_ofNat_of_le {value : Nat} (several : 10 ≤ value) :
    (ofNat value).toList = (ofNat (value / 10)).toList ++ [Fin.ofNat 10 value] := by
  rw [ofNat, if_neg (Nat.not_lt.mpr several)]
  rfl

theorem value_ofNat (value : Nat) : (ofNat value).value = value := by
  induction value using Nat.strongRecOn with
  | ind value ih =>
      rcases Nat.lt_or_ge value 10 with single | several
      · rw [ofNat_of_lt single]
        exact (Nat.zero_add _).trans (Nat.mod_eq_of_lt single)
      · have front := ih (value / 10) (by omega)
        rw [Digits.value] at front ⊢
        rw [toList_ofNat_of_le several, List.foldl_append, front]
        simp only [List.foldl_cons, List.foldl_nil, Fin.val_ofNat]
        omega

theorem leading_ofNat (value : Nat) : (ofNat value).first = 0 → (ofNat value).later = [] := by
  have nonzero {value : Nat} (positive : 0 < value) : (ofNat value).first ≠ 0 := by
    induction value using Nat.strongRecOn with
    | ind value ih =>
        rcases Nat.lt_or_ge value 10 with single | several
        · rw [ofNat_of_lt single]
          intro zero
          have remainder : value % 10 = 0 := congrArg Fin.val zero
          omega
        · rw [ofNat, if_neg (Nat.not_lt.mpr several)]
          exact ih (value / 10) (by omega) (by omega)
  intro zero
  rcases Nat.eq_zero_or_pos value with rfl | positive
  · rw [ofNat_of_lt (by decide)]
  · exact absurd zero (nonzero positive)

theorem utf8EncodeChar_digitChar (digit : Fin 10) :
    String.utf8EncodeChar (Nat.digitChar digit) = [digitOctet digit] := by
  revert digit
  decide

theorem flatMap_toDigits (value : Nat) :
    (Nat.toDigits 10 value).flatMap String.utf8EncodeChar = (ofNat value).bytes := by
  induction value using Nat.strongRecOn with
  | ind value ih =>
      have last := utf8EncodeChar_digitChar (Fin.ofNat 10 value)
      rw [Fin.val_ofNat] at last
      rw [Nat.toDigits_eq_if (by decide), bytes]
      rcases Nat.lt_or_ge value 10 with single | several
      · rw [Nat.mod_eq_of_lt single] at last
        rw [if_pos single, List.flatMap_singleton, last, ofNat_of_lt single]
        rfl
      · rw [if_neg (Nat.not_lt.mpr several), List.flatMap_append, ih (value / 10) (by omega),
          List.flatMap_singleton, last, toList_ofNat_of_le several, List.map_append]
        rfl

end Digits

namespace Numeral

/-- A number as it is printed. -/
def ofNumber : Number → Numeral
  | .integer value =>
      { negative := value < 0
        whole := .ofNat value.natAbs
        leading := Digits.leading_ofNat _ }
  | .real negative magnitude =>
      { negative := negative
        whole := .ofNat (magnitude.gridSteps * Nat.pow 5 1074)
        exponent := some ⟨false, some true, .ofNat 1074⟩
        leading := Digits.leading_ofNat _ }

theorem flatMap_render (value : Nat) :
    (DecimalText.render value).toList.flatMap String.utf8EncodeChar =
      (Digits.ofNat value).bytes := by
  rw [DecimalText.toList_render, Digits.flatMap_toDigits]

theorem flatMap_exponent :
    "e-1074".toList.flatMap String.utf8EncodeChar =
      (Exponent.mk false (some true) (.ofNat 1074)).bytes := by
  have digits := Digits.flatMap_toDigits 1074
  rw [Exponent.bytes, Exponent.behindLetter, ← digits]
  decide

/-- The digits of a real number and the power of ten behind them. -/
theorem flatMap_real (negative : Bool) (steps : Nat) :
    ((if negative then ['-'] else []) ++ (DecimalText.render steps).toList ++
        "e-1074".toList).flatMap String.utf8EncodeChar =
      (if negative then [byte '-'] else []) ++ ((Digits.ofNat steps).bytes ++ [] ++
        (Exponent.mk false (some true) (.ofNat 1074)).bytes) := by
  have minus : String.utf8EncodeChar '-' = [byte '-'] := rfl
  rw [List.flatMap_append, List.flatMap_append, flatMap_render, flatMap_exponent]
  cases negative <;> simp [minus]

theorem flatMap_printNumber (number : Number) :
    (printNumber number).flatMap String.utf8EncodeChar = (ofNumber number).bytes := by
  cases number with
  | integer value =>
      have minus : String.utf8EncodeChar '-' = [byte '-'] := rfl
      have digits := flatMap_render value.natAbs
      by_cases negative : value < 0
      · simp [printNumber, ofNumber, bytes, unsignedBytes, fractionBytes, exponentBytes, negative,
          digits, minus]
      · simp [printNumber, ofNumber, bytes, unsignedBytes, fractionBytes, exponentBytes, negative,
          digits]
  | real negative magnitude => exact flatMap_real negative _

end Numeral

/-! ### Values -/

mutual

/-- A value as it is printed. -/
def Form.ofValue : Value → Form
  | .null => .null
  | .bool value => .bool value
  | .number number => .numeral (.ofNumber number)
  | .string text => .string (Piece.ofText text)
  | .array elements => .array [] (ofElements elements)
  | .object members => .object [] (ofMembers members)

/-- The elements of an array as they are printed. -/
def ofElements : List Value → List (Padded Form)
  | [] => []
  | value :: later => ⟨[], Form.ofValue value, []⟩ :: ofElements later

/-- The members of an object as they are printed. -/
def ofMembers : List (String × Value) → List (Padded (Member Form))
  | [] => []
  | (name, value) :: later =>
      ⟨[], ⟨Piece.ofText name, [], [], Form.ofValue value⟩, []⟩ :: ofMembers later

end

theorem flatMap_printText (text : String) :
    (printText text).flatMap String.utf8EncodeChar = Piece.quoted (Piece.ofText text) := by
  have quote : String.utf8EncodeChar '"' = [byte '"'] := rfl
  rw [printText, Piece.quoted, Piece.ofText, List.cons_append, List.flatMap_cons,
    List.flatMap_append, List.flatMap_assoc, List.flatMap_map, List.flatMap_singleton, quote]
  simp only [Piece.flatMap_printChar, List.singleton_append]

theorem separated_cons (first second : Bytes) (later : List Bytes) :
    separated (first :: second :: later) = first ++ byte ',' :: separated (second :: later) :=
  rfl

mutual

theorem flatMap_printValue : ∀ value : Value,
    (printValue value).flatMap String.utf8EncodeChar = (Form.ofValue value).bytes
  | .null => by decide
  | .bool value => by cases value <;> decide
  | .number number => by rw [printValue, Numeral.flatMap_printNumber, Form.ofValue, Form.bytes]
  | .string text => by rw [printValue, flatMap_printText, Form.ofValue, Form.bytes]
  | .array elements => by
      rw [Form.ofValue, Form.bytes, bracketed, ← flatMap_printElements elements, printValue]
      simp only [List.flatMap_cons, List.flatMap_append]
      rfl
  | .object members => by
      rw [Form.ofValue, Form.bytes, bracketed, ← flatMap_printMembers members, printValue]
      simp only [List.flatMap_cons, List.flatMap_append]
      rfl

theorem flatMap_printElements : ∀ elements : List Value,
    (printElements elements).flatMap String.utf8EncodeChar =
      separated (elementTexts (ofElements elements))
  | [] => rfl
  | [last] => by
      have value := flatMap_printValue last
      simp [printElements, ofElements, elementTexts, separated, value]
  | first :: second :: rest => by
      have value := flatMap_printValue first
      have later := flatMap_printElements (second :: rest)
      have comma : String.utf8EncodeChar ',' = [byte ','] := rfl
      simp only [ofElements, elementTexts] at later ⊢
      rw [printElements, List.flatMap_append, List.flatMap_cons, value, later, separated_cons,
        comma]
      simp

theorem flatMap_printMembers : ∀ members : List (String × Value),
    (printMembers members).flatMap String.utf8EncodeChar =
      separated (memberTexts (ofMembers members))
  | [] => rfl
  | [(name, last)] => by
      have text := flatMap_printText name
      have value := flatMap_printValue last
      have colon : String.utf8EncodeChar ':' = [byte ':'] := rfl
      simp [printMembers, ofMembers, memberTexts, separated, text, value, colon]
  | (name, first) :: second :: rest => by
      have text := flatMap_printText name
      have value := flatMap_printValue first
      have later := flatMap_printMembers (second :: rest)
      have colon : String.utf8EncodeChar ':' = [byte ':'] := rfl
      have comma : String.utf8EncodeChar ',' = [byte ','] := rfl
      rcases second with ⟨other, second⟩
      simp only [ofMembers, memberTexts] at later ⊢
      rw [printMembers, List.flatMap_append, List.flatMap_cons, later, separated_cons, comma]
      simp [text, value, colon]

end

/-- The text of a value is the text of a form. -/
theorem bytes_render (value : Value) :
    Text.bytes value.render = (Form.ofValue value).bytes := by
  rw [Value.render, Text.bytes_eq_flatMap, String.toList_ofList, flatMap_printValue]

/-! ### What is stated -/

theorem text?_ofValue (text : String) : (Form.ofValue (.string text)).text? = some text := by
  rw [Form.ofValue]
  exact Piece.text?_ofText text

theorem unsigned?_ofValue (word : UInt64) :
    (Form.ofValue (.ofUnsigned word)).unsigned? = some word := by
  have value : (Digits.ofNat word.toNat).value = word.toNat := Digits.value_ofNat _
  have fits : word.toNat ≤ maxUnsigned := Nat.le_of_lt_succ word.toNat_lt
  rw [Value.ofUnsigned, Form.ofValue]
  simp [Form.unsigned?, Numeral.unsigned?, Numeral.ofNumber, Numeral.IsInteger, value, fits]

/-- What an object states when it is printed. -/
def printedStatements (members : List (String × Value)) : List Statement :=
  members.map fun member => (member.1, Form.ofValue member.2)

theorem statements?_ofValue (members : List (String × Value)) :
    (Form.ofValue (.object members)).statements? = some (printedStatements members) := by
  rw [Form.ofValue, Form.statements?]
  induction members with
  | nil => rw [ofMembers]; rfl
  | cons member later ih =>
      rcases member with ⟨name, value⟩
      rw [ofMembers, List.mapM_cons, ih, Member.statement?, Piece.text?_ofText]
      rfl

section Without

variable {Result : Type} {members : List (String × Value)} {name : String} {value : Value}

theorem count_printedStatements (distinct : (members.map (·.1)).Nodup) (removed : List String)
    (name : String) :
    ((printedStatements (members.filter fun member => !removed.contains member.1)).map
      (·.1)).count name ≤ 1 := by
  rw [printedStatements, List.map_map]
  exact List.nodup_iff_count_le_one.mp (distinct.sublist (List.filter_sublist.map _)) name

/-- What is left of an object states a member as it was or, if it was removed, nothing. -/
theorem stated?_printedStatements (distinct : (members.map (·.1)).Nodup) (removed : List String)
    (default : Result) {read? : Form → Option Result} {result : Result}
    (present : (name, value) ∈ members) (reads : read? (Form.ofValue value) = some result) :
    stated? name default read?
        (printedStatements (members.filter fun member => !removed.contains member.1)) =
      some (if name ∈ removed then default else result) := by
  by_cases gone : name ∈ removed
  · have absent : (printedStatements (members.filter fun member =>
        !removed.contains member.1)).lookup name = none := by
      refine List.lookup_eq_none_iff.mpr fun statement member => bne_iff_ne.mpr ?_
      rintro rfl
      simp only [printedStatements, List.mem_map, List.mem_filter] at member
      rcases member with ⟨left, ⟨_, kept⟩, rfl⟩
      simp [gone] at kept
    rw [stated?, absent, if_pos gone]
  · have kept : (name, Form.ofValue value) ∈
        printedStatements (members.filter fun member => !removed.contains member.1) :=
      List.mem_map_of_mem (List.mem_filter.mpr ⟨present, by simp [gone]⟩)
    rw [stated?_of_mem (count_printedStatements distinct removed name) kept, reads, if_neg gone]

end Without

end Json

end ServingPreset
