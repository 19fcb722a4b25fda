import Mathlib.Data.List.TakeWhile
import ServingPreset.Proofs.Json.Scan

/-!
# Reading written numerals

A numeral is read as the number that it states, or is malformed if it states none
(`Numeral.readNumber_append`), as long as nothing behind it could be part of it. The reader meets
the parts of a numeral one after the other, so there is one equation for each: the whole digits,
the fraction, the exponent. Digits only count up to the last one with which the significand fits
a word; how many were left over is added to the power of ten.

A numeral without sign, fraction and exponent is a word exactly if its value fits one
(`Numeral.unsigned?_number`). A skipped numeral is passed over whatever it states.
-/

namespace ServingPreset

namespace Json

variable {octet : UInt8} {rest : Bytes}

/-- The input does not go on with what could be part of a numeral. -/
def EndsNumeral (rest : Bytes) : Prop :=
  ∀ octet ∈ rest.head?, isDigit octet = false ∧ octet ≠ byte '.' ∧ octet ≠ byte 'e' ∧
    octet ≠ byte 'E'

/-! ### Digits -/

namespace Digits

theorem isDigit_digitOctet (digit : Fin 10) : isDigit (digitOctet digit) = true := by
  revert digit
  decide

theorem digitValue_digitOctet (digit : Fin 10) : digitValue (digitOctet digit) = digit.val := by
  revert digit
  decide

theorem isDigit_of_mem_bytes {digits : Digits} (member : octet ∈ digits.bytes) :
    isDigit octet = true := by
  rcases List.mem_map.mp member with ⟨digit, _, rfl⟩
  exact isDigit_digitOctet digit

theorem bytes_eq_cons (digits : Digits) :
    digits.bytes = digitOctet digits.first :: digits.later.map digitOctet := rfl

theorem takeWhile_bytes_append (digits : Digits)
    (ends : ∀ octet ∈ rest.head?, isDigit octet = false) :
    (digits.bytes ++ rest).takeWhile isDigit = digits.bytes := by
  rw [List.takeWhile_append_of_pos fun _ => isDigit_of_mem_bytes]
  cases rest with
  | nil => simp
  | cons octet later => simp [ends octet rfl]

theorem dropWhile_bytes_append (digits : Digits)
    (ends : ∀ octet ∈ rest.head?, isDigit octet = false) :
    (digits.bytes ++ rest).dropWhile isDigit = rest := by
  rw [List.dropWhile_append_of_pos fun _ => isDigit_of_mem_bytes]
  cases rest with
  | nil => rfl
  | cons octet later => simp [ends octet rfl]

theorem digitOctet_ne (digit : Fin 10) {other : UInt8} (noDigit : isDigit other = false) :
    digitOctet digit ≠ other := by
  rintro rfl
  rw [isDigit_digitOctet] at noDigit
  contradiction

theorem digitOctet_ne_zero {digit : Fin 10} (nonzero : digit ≠ 0) :
    digitOctet digit ≠ byte '0' := by
  revert digit
  decide

/-- The number that further digits make of a number. -/
def extend (start : Nat) (digits : List (Fin 10)) : Nat :=
  digits.foldl (fun value digit => 10 * value + digit.val) start

theorem value_eq (digits : Digits) : digits.value = extend 0 digits.toList := rfl

theorem le_extend (start : Nat) (digits : List (Fin 10)) : start ≤ extend start digits := by
  induction digits generalizing start with
  | nil => exact Nat.le_refl _
  | cons digit later ih =>
      have further := ih (10 * start + digit.val)
      rw [extend, List.foldl_cons, ← extend]
      omega

theorem foldl_digitOctets (start : Nat) (digits : List (Fin 10)) :
    (digits.map digitOctet).foldl (fun (value : Int) digit => 10 * value + digitValue digit) start =
      (extend start digits : Nat) := by
  induction digits generalizing start with
  | nil => rfl
  | cons digit later ih =>
      have further := ih (10 * start + digit.val)
      rw [List.map_cons, List.foldl_cons, digitValue_digitOctet, extend, List.foldl_cons, ← extend,
        ← further]
      push_cast
      rfl

/-- All digits count as long as their number fits a word. -/
theorem absorb_of_le {start : Nat} {digits : List (Fin 10)}
    (fits : extend start digits ≤ maxUnsigned) :
    absorb start (digits.map digitOctet) = (extend start digits, []) := by
  induction digits generalizing start with
  | nil => rfl
  | cons digit later ih =>
      have further := le_extend (10 * start + digit.val) later
      have fits : extend (10 * start + digit.val) later ≤ maxUnsigned := fits
      rw [List.map_cons, absorb, digitValue_digitOctet, if_pos (Nat.le_trans further fits),
        ih fits]
      rfl

theorem absorb_of_lt {start : Nat} {digits : List (Fin 10)}
    (held : start ≤ maxUnsigned) (beyond : maxUnsigned < extend start digits) :
    (absorb start (digits.map digitOctet)).2 ≠ [] := by
  induction digits generalizing start with
  | nil => exact absurd held (Nat.not_le.mpr beyond)
  | cons digit later ih =>
      rw [List.map_cons, absorb, digitValue_digitOctet]
      split
      · next fits => exact ih fits beyond
      · exact List.cons_ne_nil _ _

end Digits

/-! ### The number of a numeral -/

namespace Numeral

/-- The digits of the fraction. -/
def fractionDigits (numeral : Numeral) : Bytes :=
  match numeral.fraction with
  | none => []
  | some digits => digits.bytes

/-- The power of ten that the exponent states. -/
def power (numeral : Numeral) : Int :=
  match numeral.exponent with
  | none => 0
  | some exponent => exponent.value

/-- The whole digits that fit a word, and those that are left over. -/
def wholeDigits (numeral : Numeral) : Nat × Bytes :=
  absorb 0 numeral.whole.bytes

/-- The digits of the fraction that fit the word as well, and those that are left over. -/
def allDigits (numeral : Numeral) : Nat × Bytes :=
  absorb numeral.wholeDigits.1 numeral.fractionDigits

/-- The power of ten of the last digit that counts. -/
def scale (numeral : Numeral) : Int :=
  numeral.wholeDigits.2.length -
    (numeral.fractionDigits.length - numeral.allDigits.2.length : Nat) + numeral.power

/-- Whether a numeral has neither fraction nor exponent and fits a word. -/
def IsInteger (numeral : Numeral) : Prop :=
  numeral.fraction = none ∧ numeral.exponent = none ∧ numeral.whole.value ≤ maxUnsigned

instance (numeral : Numeral) : Decidable numeral.IsInteger :=
  inferInstanceAs (Decidable (_ ∧ _ ∧ _))

/-- The number that a numeral states, unless it is beyond the greatest one. -/
def number? (numeral : Numeral) : Option Number :=
  if numeral.IsInteger then some (integerNumber numeral.negative numeral.whole.value)
  else (scale? (Binary64.ofNat numeral.allDigits.1) numeral.scale).map (.real numeral.negative)

theorem wholeDigits_of_le {numeral : Numeral} (fits : numeral.whole.value ≤ maxUnsigned) :
    numeral.wholeDigits = (numeral.whole.value, []) :=
  Digits.absorb_of_le fits

theorem wholeDigits_eq_nil_iff {numeral : Numeral} :
    numeral.wholeDigits.2 = [] ↔ numeral.whole.value ≤ maxUnsigned := by
  refine ⟨fun complete => ?_, fun fits => by rw [wholeDigits_of_le fits]⟩
  by_contra beyond
  exact Digits.absorb_of_lt (Nat.zero_le _) (Nat.not_le.mp beyond) complete

/-! ### Reading -/

variable {numeral : Numeral}

/-- Whether an exponent begins with a minus, and the input behind its sign. -/
def splitSign : Bytes → Bool × Bytes
  | octet :: rest =>
      if octet = byte '-' then (true, rest)
      else if octet = byte '+' then (false, rest)
      else (false, octet :: rest)
  | [] => (false, [])

theorem splitSign_append (exponent : Exponent) (rest : Bytes) :
    splitSign (exponent.behindLetter ++ rest) =
      (exponent.sign == some true, exponent.digits.bytes ++ rest) := by
  rw [Exponent.behindLetter]
  rcases exponent.sign with _ | _ | _
  · have noMinus : digitOctet exponent.digits.first ≠ byte '-' :=
      Digits.digitOctet_ne _ (by decide)
    have noPlus : digitOctet exponent.digits.first ≠ byte '+' :=
      Digits.digitOctet_ne _ (by decide)
    simp only [Digits.bytes_eq_cons, List.cons_append]
    rw [splitSign, if_neg noMinus, if_neg noPlus]
    rfl
  · rfl
  · rfl

theorem readExponent_of_splitSign {bytes : Bytes} {lowers : Bool} {digits : Digits}
    (signed : splitSign bytes = (lowers, digits.bytes ++ rest)) (ends : EndsNumeral rest)
    (negative : Bool) (significand : Nat) (power : Int) :
    readExponent negative significand power bytes =
      readScaled negative significand
        (if lowers then power - digits.value else power + digits.value) rest := by
  have taken := digits.takeWhile_bytes_append fun octet head => (ends octet head).1
  have left := digits.dropWhile_bytes_append fun octet head => (ends octet head).1
  have value : digits.bytes.foldl
      (fun (value : Int) digit => 10 * value + digitValue digit) 0 = digits.value :=
    Digits.foldl_digitOctets 0 digits.toList
  cases bytes with
  | nil => cases signed
  | cons octet later =>
      rw [splitSign] at signed
      simp only [readExponent, signed]
      rw [taken, left, value]
      simp only [Digits.bytes_eq_cons, List.cons_append, Digits.isDigit_digitOctet, if_true]

theorem readExponent_append (negative : Bool) (significand : Nat) (power : Int)
    (exponent : Exponent) (ends : EndsNumeral rest) :
    readExponent negative significand power (exponent.behindLetter ++ rest) =
      readScaled negative significand (power + exponent.value) rest := by
  rw [readExponent_of_splitSign (splitSign_append exponent rest) ends, Exponent.value]
  congr 1
  rcases exponent.sign with _ | _ | _
  · rfl
  · rfl
  · exact Int.sub_eq_add_neg

theorem letter_eq (exponent : Exponent) :
    exponent.letter = byte 'e' ∨ exponent.letter = byte 'E' := by
  rw [Exponent.letter]
  cases exponent.capital with
  | false => exact .inl rfl
  | true => exact .inr rfl

theorem letter_apart (exponent : Exponent) :
    isDigit exponent.letter = false ∧ exponent.letter ≠ byte '.' := by
  rcases letter_eq exponent with small | capital
  · rw [small]
    decide
  · rw [capital]
    decide

theorem head_exponentBytes_append (numeral : Numeral) (ends : EndsNumeral rest) :
    ∀ octet ∈ (numeral.exponentBytes ++ rest).head?, isDigit octet = false ∧ octet ≠ byte '.' := by
  rw [exponentBytes]
  rcases numeral.exponent with _ | exponent
  · exact fun octet head => ⟨(ends octet head).1, (ends octet head).2.1⟩
  · intro octet head
    cases head
    exact letter_apart exponent

theorem readOptionalExponent_append (negative : Bool) (significand : Nat) (power : Int)
    (ends : EndsNumeral rest) :
    readOptionalExponent negative significand power (numeral.exponentBytes ++ rest) =
      readScaled negative significand (power + numeral.power) rest := by
  rw [exponentBytes, Numeral.power]
  rcases numeral.exponent with _ | exponent
  · rw [List.nil_append, Int.add_zero]
    cases rest with
    | nil => rfl
    | cons octet later =>
        rcases ends octet rfl with ⟨_, _, small, capital⟩
        simp [readOptionalExponent, small, capital]
  · have letter := letter_eq exponent
    simp only [Exponent.bytes, List.cons_append, readOptionalExponent]
    rw [if_pos (by simpa using letter), readExponent_append _ _ _ _ ends]

theorem readFraction_append (negative : Bool) (significand : Nat) (power : Int) (digits : Digits)
    (ends : EndsNumeral rest) :
    readFraction negative significand power (digits.bytes ++ (numeral.exponentBytes ++ rest)) =
      readScaled negative (absorb significand digits.bytes).1
        (power - (digits.bytes.length - (absorb significand digits.bytes).2.length : Nat) +
          numeral.power) rest := by
  have boundary := fun octet head => (head_exponentBytes_append numeral ends octet head).1
  have taken := digits.takeWhile_bytes_append boundary
  have left := digits.dropWhile_bytes_append boundary
  have nonempty : digits.bytes.isEmpty = false := rfl
  rw [readFraction]
  simp only [taken, left, nonempty, Bool.false_eq_true, if_false]
  exact readOptionalExponent_append _ _ _ ends

theorem readScaled_eq (negative : Bool) (significand : Nat) (power : Int) (rest : Bytes) :
    readScaled negative significand power rest =
      found rest ((scale? (Binary64.ofNat significand) power).map (.real negative)) := by
  rw [readScaled]
  cases scale? (Binary64.ofNat significand) power <;> rfl

theorem number?_of_not_isInteger (fractional : ¬numeral.IsInteger) :
    numeral.number? =
      (scale? (Binary64.ofNat numeral.allDigits.1) numeral.scale).map (.real numeral.negative) :=
  if_neg fractional

theorem allDigits_of_whole (whole : numeral.fraction = none) :
    numeral.allDigits = (numeral.wholeDigits.1, []) := by
  rw [allDigits, fractionDigits, whole, absorb]

theorem scale_of_whole (whole : numeral.fraction = none) :
    numeral.scale = numeral.wholeDigits.2.length + numeral.power := by
  rw [scale, allDigits_of_whole whole, fractionDigits, whole]
  simp

theorem readAfterWhole_end (negative : Bool) (significand dropped : Nat)
    (ends : EndsNumeral rest) :
    readAfterWhole negative significand dropped rest =
      if dropped = 0 then .ok (integerNumber negative significand, rest)
      else readScaled negative significand dropped rest := by
  cases rest with
  | nil => rfl
  | cons octet later =>
      rcases ends octet rfl with ⟨_, point, small, capital⟩
      rw [readAfterWhole, if_neg point, if_neg (by simp [small, capital])]

theorem readAfterWhole_append (numeral : Numeral) (ends : EndsNumeral rest) :
    readAfterWhole numeral.negative numeral.wholeDigits.1 numeral.wholeDigits.2.length
        (numeral.fractionBytes ++ (numeral.exponentBytes ++ rest)) =
      found rest numeral.number? := by
  rcases fraction : numeral.fraction with _ | digits
  · rw [fractionBytes, fraction, List.nil_append]
    rcases stated : numeral.exponent with _ | exponent
    · have complete : numeral.wholeDigits.2.length = 0 ↔ numeral.whole.value ≤ maxUnsigned :=
        List.length_eq_zero_iff.trans wholeDigits_eq_nil_iff
      rw [exponentBytes, stated, List.nil_append, readAfterWhole_end _ _ _ ends]
      by_cases fits : numeral.whole.value ≤ maxUnsigned
      · have integer : numeral.IsInteger := ⟨fraction, stated, fits⟩
        rw [if_pos (complete.mpr fits), number?, if_pos integer, wholeDigits_of_le fits]
        rfl
      · have large : ¬numeral.IsInteger := fun integer => fits integer.2.2
        rw [if_neg (mt complete.mp fits), readScaled_eq, number?_of_not_isInteger large,
          allDigits_of_whole fraction, scale_of_whole fraction, power, stated, Int.add_zero]
    · have scientific : ¬numeral.IsInteger := by
        simp [IsInteger, stated]
      rw [number?_of_not_isInteger scientific, ← readScaled_eq, allDigits_of_whole fraction,
        scale_of_whole fraction, exponentBytes, power, stated]
      have letter := letter_eq exponent
      simp only [Exponent.bytes, List.cons_append, readAfterWhole]
      rw [if_neg (letter_apart exponent).2, if_pos (by simpa using letter),
        readExponent_append _ _ _ _ ends]
  · have fractional : ¬numeral.IsInteger := by
      simp [IsInteger, fraction]
    rw [number?_of_not_isInteger fractional, ← readScaled_eq, fractionBytes, fraction,
      List.cons_append, readAfterWhole, if_pos rfl, readFraction_append _ _ _ _ ends, scale,
      allDigits, fractionDigits, fraction]

theorem head_fractionBytes_append (numeral : Numeral) (ends : EndsNumeral rest) :
    ∀ octet ∈ (numeral.fractionBytes ++ (numeral.exponentBytes ++ rest)).head?,
      isDigit octet = false := by
  rw [fractionBytes]
  rcases numeral.fraction with _ | digits
  · exact fun octet head => (head_exponentBytes_append numeral ends octet head).1
  · intro octet head
    cases head
    rfl

theorem startsDigit_eq_false {bytes : Bytes}
    (boundary : ∀ octet ∈ bytes.head?, isDigit octet = false) :
    (bytes.head?.map isDigit).getD false = false := by
  cases bytes with
  | nil => rfl
  | cons octet later => exact boundary octet rfl

theorem whole_bytes_of_zero (zero : numeral.whole.first = 0) :
    numeral.whole.bytes = [byte '0'] := by
  rw [Digits.bytes_eq_cons, zero, numeral.leading zero]
  rfl

/-- A numeral is read as its number. -/
theorem readNumber_append (numeral : Numeral) (ends : EndsNumeral rest) :
    readNumber numeral.negative (numeral.unsignedBytes ++ rest) = found rest numeral.number? := by
  have boundary := head_fractionBytes_append numeral ends
  rw [unsignedBytes, List.append_assoc, List.append_assoc, ← readAfterWhole_append numeral ends]
  generalize numeral.fractionBytes ++ (numeral.exponentBytes ++ rest) = behind at *
  rw [wholeDigits]
  by_cases zero : numeral.whole.first = 0
  · rw [whole_bytes_of_zero zero, List.cons_append, List.nil_append, readNumber, if_pos rfl,
      startsDigit_eq_false boundary]
    rfl
  · have taken := numeral.whole.takeWhile_bytes_append boundary
    have left := numeral.whole.dropWhile_bytes_append boundary
    rw [Digits.bytes_eq_cons, List.cons_append] at taken left ⊢
    rw [readNumber, if_neg (Digits.digitOctet_ne_zero zero),
      if_pos (Digits.isDigit_digitOctet _), taken, left]

/-! ### Words -/

/-- The word that a numeral states: it has no sign, no fraction and no exponent, and it fits. -/
def unsigned? (numeral : Numeral) : Option UInt64 :=
  if numeral.negative = false ∧ numeral.IsInteger then some (UInt64.ofNat numeral.whole.value)
  else none

theorem unsigned?_integerNumber (negative : Bool) (magnitude : Nat) :
    (Value.number (integerNumber negative magnitude)).unsigned? =
      if negative = false then some (UInt64.ofNat magnitude) else none := by
  cases negative with
  | false => simp [integerNumber, Value.unsigned?]
  | true =>
      rw [integerNumber, if_neg (by decide)]
      split
      · rfl
      · next nonzero =>
          simp only [Bool.or_eq_true, decide_eq_true_eq, not_or] at nonzero
          simp only [Value.unsigned?]
          rw [if_neg (by omega), if_neg (by decide)]

/-- The number of a numeral is a word exactly if the numeral states one. -/
theorem unsigned?_number {number : Number} (stated : numeral.number? = some number) :
    (Value.number number).unsigned? = numeral.unsigned? := by
  rw [unsigned?]
  by_cases integer : numeral.IsInteger
  · rw [number?, if_pos integer, Option.some.injEq] at stated
    subst stated
    simp [unsigned?_integerNumber, integer]
  · rw [number?_of_not_isInteger integer, Option.map_eq_some_iff] at stated
    rcases stated with ⟨magnitude, _, rfl⟩
    simp [Value.unsigned?, integer]

theorem unsigned?_of_number?_eq_none (unstated : numeral.number? = none) :
    numeral.unsigned? = none := by
  refine if_neg fun word => ?_
  rw [number?, if_pos word.2] at unstated
  contradiction

/-! ### Skipping -/

theorem skipExponent_eq (bytes : Bytes) :
    skipExponent bytes =
      if ((splitSign bytes).2.head?.map isDigit).getD false then
        .ok ((splitSign bytes).2.dropWhile isDigit)
      else .error .malformed := by
  cases bytes with
  | nil => rfl
  | cons octet rest =>
      by_cases minus : octet = byte '-'
      · simp [skipExponent, splitSign, minus]
      · by_cases plus : octet = byte '+'
        · have apart : byte '+' ≠ byte '-' := by decide
          simp [skipExponent, splitSign, plus, apart]
        · simp [skipExponent, splitSign, minus, plus]

theorem skipExponent_append (exponent : Exponent) (ends : EndsNumeral rest) :
    skipExponent (exponent.behindLetter ++ rest) = .ok rest := by
  have left := exponent.digits.dropWhile_bytes_append fun octet head => (ends octet head).1
  rw [skipExponent_eq, splitSign_append, left]
  exact if_pos (Digits.isDigit_digitOctet _)

theorem skipOptionalExponent_append (numeral : Numeral) (ends : EndsNumeral rest) :
    skipOptionalExponent (numeral.exponentBytes ++ rest) = .ok rest := by
  rw [exponentBytes]
  rcases numeral.exponent with _ | exponent
  · rw [List.nil_append]
    cases rest with
    | nil => rfl
    | cons octet later =>
        rcases ends octet rfl with ⟨_, _, small, capital⟩
        rw [skipOptionalExponent, if_neg (by simp [small, capital])]
  · have letter := letter_eq exponent
    simp only [Exponent.bytes, List.cons_append, skipOptionalExponent]
    rw [if_pos (by simpa using letter), skipExponent_append _ ends]

theorem skipAfterWhole_append (numeral : Numeral) (ends : EndsNumeral rest) :
    skipAfterWhole (numeral.fractionBytes ++ (numeral.exponentBytes ++ rest)) = .ok rest := by
  have exponent := skipOptionalExponent_append numeral ends
  have boundary := head_exponentBytes_append numeral ends
  rw [fractionBytes]
  generalize numeral.exponentBytes ++ rest = behind at *
  rcases numeral.fraction with _ | digits
  · rw [List.nil_append]
    cases behind with
    | nil => exact exponent
    | cons octet later => rw [skipAfterWhole, if_neg (boundary octet rfl).2, exponent]
  · have left := digits.dropWhile_bytes_append fun octet head => (boundary octet head).1
    rw [List.cons_append, skipAfterWhole, if_pos rfl, left, exponent]
    exact if_pos (Digits.isDigit_digitOctet _)

/-- A numeral is passed over, whether it states a number or not. -/
theorem skipNumber_append (numeral : Numeral) (ends : EndsNumeral rest) :
    skipNumber (numeral.unsignedBytes ++ rest) = .ok rest := by
  have boundary := head_fractionBytes_append numeral ends
  rw [unsignedBytes, List.append_assoc, List.append_assoc, ← skipAfterWhole_append numeral ends]
  generalize numeral.fractionBytes ++ (numeral.exponentBytes ++ rest) = behind at *
  by_cases zero : numeral.whole.first = 0
  · rw [whole_bytes_of_zero zero, List.cons_append, List.nil_append, skipNumber, if_pos rfl,
      startsDigit_eq_false boundary]
    rfl
  · have left := numeral.whole.dropWhile_bytes_append boundary
    rw [Digits.bytes_eq_cons, List.cons_append] at left ⊢
    rw [List.dropWhile_cons_of_pos (Digits.isDigit_digitOctet _)] at left
    rw [skipNumber, if_neg (Digits.digitOctet_ne_zero zero),
      if_pos (Digits.isDigit_digitOctet _), left]

end Numeral

end Json

end ServingPreset
