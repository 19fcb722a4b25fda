import Mathlib.Data.List.TakeWhile
import ServingPreset.Number.DecimalText
import ServingPreset.Proofs.Number.Binary64
import ServingPreset.Proofs.Number.Word

/-!
# Reading what was written

The decimal digits of a natural number are read back as the number. As a floating-point
number they are read through the rounding of `Binary64`, since digits alone have neither a
sign nor a point nor an exponent, and are none of the words.

A text spells a signed word if it has digits, with or without a sign before them, and their
value has a word (`signed?_eq_some_iff`).
-/

namespace ServingPreset

namespace DecimalText

variable {value : Nat} {char : Char} {digits : List Char}

/-! ### Digits -/

theorem isDigit_iff : isDigit char = true ↔ 48 ≤ char.toNat ∧ char.toNat ≤ 57 := by
  simp only [isDigit, Bool.and_eq_true, decide_eq_true_eq, Char.le_def, UInt32.le_iff_toNat_le]
  rfl

theorem lowerAscii_of_isDigit (digit : isDigit char = true) : Text.lowerAscii char = char := by
  have range := isDigit_iff.mp digit
  rw [Text.lowerAscii, if_neg]
  rintro ⟨above, _⟩
  have letter : 65 ≤ char.toNat := above
  omega

theorem ne_of_isDigit {other : Char} (digit : isDigit char = true)
    (noDigit : isDigit other = false) : char ≠ other := by
  rintro rfl
  rw [digit] at noDigit
  contradiction

theorem toList_render (value : Nat) : (render value).toList = Nat.toDigits 10 value := by
  rw [render, String.toList_ofList]

theorem isDigit_of_mem_toDigits (member : char ∈ Nat.toDigits 10 value) : isDigit char = true := by
  have digit := Nat.isDigit_of_mem_toDigits (by decide) (by decide) member
  simpa [Char.isDigit, isDigit_iff, UInt32.le_iff_toNat_le] using digit

theorem digitsValue_toDigits (value : Nat) : digitsValue (Nat.toDigits 10 value) = value :=
  Nat.ofDigitChars_ten_toDigits

/-! ### Digits as a floating-point number -/

theorem splitSign_of_unsigned {sign chars : List Char} (listed : sign ∈ [[], ['+'], ['-']])
    (unsigned : ∀ char ∈ chars.head?, char ≠ '+' ∧ char ≠ '-') :
    splitSign (sign ++ chars) = (decide (sign = ['-']), chars) := by
  simp only [List.mem_cons, List.not_mem_nil, or_false] at listed
  rcases listed with rfl | rfl | rfl
  · rw [List.nil_append]
    unfold splitSign
    split
    · exact absurd rfl (unsigned '-' rfl).2
    · exact absurd rfl (unsigned '+' rfl).1
    · rfl
  · rfl
  · rfl

theorem splitSign_of_sign {sign : List Char} (listed : sign ∈ [[], ['+'], ['-']])
    (all : ∀ char ∈ digits, isDigit char = true) :
    splitSign (sign ++ digits) = (decide (sign = ['-']), digits) := by
  apply splitSign_of_unsigned listed
  intro char first
  have digit := all char (List.mem_of_mem_head? first)
  exact ⟨ne_of_isDigit digit rfl, ne_of_isDigit digit rfl⟩

theorem splitSign_of_digits (all : ∀ char ∈ digits, isDigit char = true) :
    splitSign digits = (false, digits) :=
  splitSign_of_sign List.mem_cons_self all

/-- Digits alone are a whole number. -/
theorem magnitude?_of_digits (nonempty : digits ≠ []) (all : ∀ char ∈ digits, isDigit char = true) :
    magnitude? digits = some (Binary64.ofNat (digitsValue digits)) := by
  have whole : digits.takeWhile isDigit = digits := List.takeWhile_eq_self_iff.mpr all
  have rest : digits.dropWhile isDigit = [] := List.dropWhile_eq_nil_iff.mpr all
  simp [magnitude?, whole, rest, nonempty, exponent?, Binary64.ofDecimal_zero_exponent]

theorem real?_of_digits (nonempty : digits ≠ []) (all : ∀ char ∈ digits, isDigit char = true) :
    real? digits = some (.number false (Binary64.ofNat (digitsValue digits))) := by
  have lower : digits.map Text.lowerAscii = digits := by
    rw [List.map_congr_left fun char member => lowerAscii_of_isDigit (all char member),
      List.map_id']
  have word {letters : List Char} (letter : ∃ char ∈ letters, isDigit char = false) :
      digits ≠ letters := by
    rintro rfl
    rcases letter with ⟨char, member, noDigit⟩
    exact ne_of_isDigit (all char member) noDigit rfl
  have infinite : digits ≠ "inf".toList := word ⟨'i', by decide, by decide⟩
  have infinity : digits ≠ "infinity".toList := word ⟨'i', by decide, by decide⟩
  have undefined : digits ≠ "nan".toList := word ⟨'n', by decide, by decide⟩
  simp only [real?, splitSign_of_digits all, lower, infinite, infinity, undefined, or_self,
    if_false, magnitude?_of_digits nonempty all, Option.map_some]

/-! ### Texts of integers -/

section Integers

variable {chars : List Char} {text : String} {negative : Bool}

theorem natural?_of_digits (nonempty : digits ≠ []) (all : ∀ char ∈ digits, isDigit char = true) :
    natural? digits = some (digitsValue digits) := by
  simp [natural?, nonempty, List.all_eq_true.mpr all]

theorem natural?_eq_some_iff :
    natural? digits = some value ↔
      digits ≠ [] ∧ (∀ char ∈ digits, isDigit char = true) ∧ value = digitsValue digits := by
  constructor
  · intro spelled
    unfold natural? at spelled
    split at spelled
    · contradiction
    · next digital =>
        simp only [Bool.or_eq_true, not_or, List.isEmpty_iff, Bool.not_eq_true',
          Bool.not_eq_false, List.all_eq_true] at digital
        exact ⟨digital.1, digital.2, (Option.some.inj spelled).symm⟩
  · rintro ⟨nonempty, all, rfl⟩
    exact natural?_of_digits nonempty all

theorem exists_sign_of_splitSign (signed : splitSign chars = (negative, digits)) :
    ∃ sign, chars = sign ++ digits ∧ sign ∈ [[], ['+'], ['-']] ∧
      negative = decide (sign = ['-']) := by
  unfold splitSign at signed
  split at signed <;> cases signed
  · exact ⟨['-'], rfl, by simp, rfl⟩
  · exact ⟨['+'], rfl, by simp, rfl⟩
  · exact ⟨[], rfl, by simp, rfl⟩

theorem integer?_of_splitSign (signed : splitSign chars = (negative, digits)) :
    integer? chars = (natural? digits).map fun value : Nat =>
      if negative then -(value : Int) else value := by
  simp only [integer?, signed]
  cases natural? digits <;> rfl

/-- A text spells an integer by digits, with or without a sign before them. -/
def Spells (text : String) (integer : Int) : Prop :=
  ∃ sign digits, text.toList = sign ++ digits ∧ sign ∈ [[], ['+'], ['-']] ∧ digits ≠ [] ∧
    (∀ char ∈ digits, char.isDigit = true) ∧
    integer = if sign = ['-'] then -(Nat.ofDigitChars 10 digits 0 : Int)
      else Nat.ofDigitChars 10 digits 0

theorem integer?_eq_some_iff {integer : Int} :
    integer? text.toList = some integer ↔ Spells text integer := by
  constructor
  · intro spelled
    rcases signed : splitSign text.toList with ⟨negative, digits⟩
    rcases exists_sign_of_splitSign signed with ⟨sign, whole, listed, rfl⟩
    rw [integer?_of_splitSign signed, Option.map_eq_some_iff] at spelled
    rcases spelled with ⟨magnitude, read, rfl⟩
    rcases natural?_eq_some_iff.mp read with ⟨nonempty, all, rfl⟩
    refine ⟨sign, digits, whole, listed, nonempty, all, ?_⟩
    simp only [decide_eq_true_eq]
    rfl
  · rintro ⟨sign, digits, whole, listed, nonempty, all, rfl⟩
    rw [whole, integer?_of_splitSign (splitSign_of_sign listed all),
      natural?_of_digits nonempty all]
    simp only [Option.map_some, decide_eq_true_eq]
    rfl

theorem signed?_eq_some_iff {word : Int64} : signed? text = some word ↔ Spells text word.toInt := by
  simp only [signed?, Option.bind_eq_some_iff, signedWord?_eq_some_iff, exists_eq_right,
    integer?_eq_some_iff]

end Integers

end DecimalText

end ServingPreset
