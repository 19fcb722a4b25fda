import ServingPreset.Proofs.Number.DecimalText
import ServingPreset.Proofs.Number.Rounding
import ServingPreset.Proofs.Text.Cut

/-!
# Texts of floating-point numbers

The grammar of floating-point numbers, apart from the way it is read: an optional sign and
either a word, or digits with at most one point and an optional exponent. The reader accepts
exactly the texts of the grammar (`spellsReal_of_real?`, `real?_of_spellsReal`). Digits have an
exact value however many they are, and the number of a text is the correctly rounded one of
that value.
-/

namespace ServingPreset

namespace DecimalText

variable {chars digits tail : List Char} {exponent : ℤ} {real : Real}

/-- An exponent of ten, which is zero if none is written. -/
inductive SpellsExponent : List Char → ℤ → Prop
  | absent : SpellsExponent [] 0
  | present {mark : Char} {text : String} {exponent : ℤ} (marked : mark = 'e' ∨ mark = 'E')
      (spelled : Spells text exponent) : SpellsExponent (mark :: text.toList) exponent

/-- Digits, at most one point among them, and an exponent: a whole number times a power of ten. -/
inductive SpellsDecimal : List Char → ℕ → ℤ → Prop
  | whole {digits tail : List Char} {exponent : ℤ} (nonempty : digits ≠ [])
      (all : ∀ char ∈ digits, char.isDigit = true) (scaled : SpellsExponent tail exponent) :
      SpellsDecimal (digits ++ tail) (Nat.ofDigitChars 10 digits 0) exponent
  | pointed {whole fraction tail : List Char} {exponent : ℤ} (nonempty : whole ++ fraction ≠ [])
      (all : ∀ char ∈ whole ++ fraction, char.isDigit = true)
      (scaled : SpellsExponent tail exponent) :
      SpellsDecimal (whole ++ '.' :: (fraction ++ tail))
        (Nat.ofDigitChars 10 (whole ++ fraction) 0) (exponent - fraction.length)

/-- A sign and a word, or a sign and a decimal number that is correctly rounded. -/
inductive SpellsReal : List Char → Real → Prop
  | infinite {sign word : List Char} {magnitude : Binary64} (signed : sign ∈ [[], ['+'], ['-']])
      (spelled : word.map Text.lowerAscii ∈ ["inf".toList, "infinity".toList])
      (unbounded : magnitude.isFinite = false) :
      SpellsReal (sign ++ word) (.number (decide (sign = ['-'])) magnitude)
  | undefined {sign word : List Char} (signed : sign ∈ [[], ['+'], ['-']])
      (spelled : word.map Text.lowerAscii = "nan".toList) : SpellsReal (sign ++ word) .undefined
  | decimal {sign chars : List Char} {significand : ℕ} {exponent : ℤ} {magnitude : Binary64}
      (signed : sign ∈ [[], ['+'], ['-']]) (spelled : SpellsDecimal chars significand exponent)
      (rounded : Binary64.IsRounded (significand * 10 ^ exponent) magnitude) :
      SpellsReal (sign ++ chars) (.number (decide (sign = ['-'])) magnitude)

/-! ### Exponents -/

theorem exponent?_eq_some_iff : exponent? chars = some exponent ↔ SpellsExponent chars exponent := by
  constructor
  · intro read
    cases chars with
    | nil =>
        cases read
        exact .absent
    | cons mark rest =>
        rw [exponent?] at read
        split at read
        · next marked =>
            rw [← String.toList_ofList (l := rest)] at read ⊢
            exact .present marked (integer?_eq_some_iff.mp read)
        · contradiction
  · intro spelled
    cases spelled with
    | absent => rfl
    | present marked spelled => rw [exponent?, if_pos marked, integer?_eq_some_iff.mpr spelled]

theorem SpellsExponent.head (scaled : SpellsExponent tail exponent) :
    ∀ char ∈ tail.head?, char = 'e' ∨ char = 'E' := by
  cases scaled with
  | absent => exact fun _ found => nomatch found
  | present marked _ =>
      rintro char ⟨⟩
      exact marked

/-! ### Decimal numbers -/

theorem exists_digits (chars : List Char) :
    ∃ digits tail, chars = digits ++ tail ∧ (∀ char ∈ digits, isDigit char = true) ∧
      ∀ char ∈ tail.head?, isDigit char = false := by
  refine ⟨chars.takeWhile isDigit, chars.dropWhile isDigit, ?_, ?_, ?_⟩
  · rw [List.takeWhile_append_dropWhile]
  · exact fun char member => List.mem_takeWhile_imp member
  · intro char first
    have stopped := List.head?_dropWhile_not isDigit chars
    rwa [first] at stopped

theorem takeWhile_digits (all : ∀ char ∈ digits, isDigit char = true)
    (ends : ∀ char ∈ tail.head?, isDigit char = false) :
    (digits ++ tail).takeWhile isDigit = digits ∧ (digits ++ tail).dropWhile isDigit = tail := by
  rw [List.takeWhile_append_of_pos all, List.dropWhile_append_of_pos all]
  cases tail with
  | nil => simp
  | cons char rest => simp [ends char rfl]

theorem magnitude?_whole (all : ∀ char ∈ digits, isDigit char = true)
    (ends : ∀ char ∈ tail.head?, isDigit char = false) (unpointed : tail.head? ≠ some '.') :
    magnitude? (digits ++ tail) =
      if digits = [] then none
      else (exponent? tail).map (Binary64.ofDecimal (digitsValue digits)) := by
  rcases takeWhile_digits all ends with ⟨front, back⟩
  rw [magnitude?, front, back]
  split
  next fraction rest parts =>
    split at parts
    · simp at unpointed
    · cases parts
      simp

theorem magnitude?_pointed {whole fraction : List Char}
    (all : ∀ char ∈ whole ++ fraction, isDigit char = true)
    (ends : ∀ char ∈ tail.head?, isDigit char = false) :
    magnitude? (whole ++ '.' :: (fraction ++ tail)) =
      if whole ++ fraction = [] then none
      else (exponent? tail).map fun exponent =>
        Binary64.ofDecimal (digitsValue (whole ++ fraction)) (exponent - fraction.length) := by
  rw [List.forall_mem_append] at all
  have point : ∀ char ∈ ('.' :: (fraction ++ tail)).head?, isDigit char = false := by
    rintro char ⟨⟩
    rfl
  rcases takeWhile_digits all.1 point with ⟨front, back⟩
  rcases takeWhile_digits all.2 ends with ⟨front', back'⟩
  simp [magnitude?, front, back, front', back']

theorem SpellsExponent.ends (scaled : SpellsExponent tail exponent) :
    (∀ char ∈ tail.head?, isDigit char = false) ∧ tail.head? ≠ some '.' := by
  constructor
  · intro char first
    rcases scaled.head char first with rfl | rfl <;> rfl
  · intro pointed
    rcases scaled.head '.' pointed with other | other <;> contradiction

/-- The reader takes the digits as the grammar has them. -/
theorem magnitude?_eq_some_iff {magnitude : Binary64} :
    magnitude? chars = some magnitude ↔
      ∃ significand exponent, SpellsDecimal chars significand exponent ∧
        Binary64.ofDecimal significand exponent = magnitude := by
  constructor
  · intro read
    rcases exists_digits chars with ⟨digits, tail, rfl, all, ends⟩
    by_cases pointed : tail.head? = some '.'
    · rcases List.head?_eq_some_iff.mp pointed with ⟨rest, rfl⟩
      rcases exists_digits rest with ⟨fraction, tail, rfl, all', ends'⟩
      have both := List.forall_mem_append.mpr ⟨all, all'⟩
      rw [magnitude?_pointed both ends'] at read
      split at read
      · contradiction
      · next nonempty =>
          rcases Option.map_eq_some_iff.mp read with ⟨exponent, spelled, rfl⟩
          exact ⟨_, _, .pointed nonempty both (exponent?_eq_some_iff.mp spelled), rfl⟩
    · rw [magnitude?_whole all ends pointed] at read
      split at read
      · contradiction
      · next nonempty =>
          rcases Option.map_eq_some_iff.mp read with ⟨exponent, spelled, rfl⟩
          exact ⟨_, _, .whole nonempty all (exponent?_eq_some_iff.mp spelled), rfl⟩
  · rintro ⟨significand, exponent, spelled, rfl⟩
    cases spelled with
    | whole nonempty all scaled =>
        rw [magnitude?_whole all scaled.ends.1 scaled.ends.2, if_neg nonempty,
          exponent?_eq_some_iff.mpr scaled]
        rfl
    | pointed nonempty all scaled =>
        rw [magnitude?_pointed all scaled.ends.1, if_neg nonempty,
          exponent?_eq_some_iff.mpr scaled]
        rfl

/-! ### Signs and words -/

theorem unsigned_of_word {word letters : List Char} (spelled : word.map Text.lowerAscii = letters)
    (lettered : letters.head? ≠ some '+' ∧ letters.head? ≠ some '-') :
    ∀ char ∈ word.head?, char ≠ '+' ∧ char ≠ '-' := by
  intro char first
  have lowered : letters.head? = some (Text.lowerAscii char) := by
    rw [← spelled, List.head?_map, first, Option.map_some]
  rw [lowered] at lettered
  constructor
  · rintro rfl
    exact lettered.1 rfl
  · rintro rfl
    exact lettered.2 rfl

namespace SpellsDecimal

variable {significand : ℕ}

theorem head (spelled : SpellsDecimal chars significand exponent) :
    ∃ char, chars.head? = some char ∧ (isDigit char = true ∨ char = '.') := by
  cases spelled with
  | whole nonempty all _ =>
      rcases List.exists_cons_of_ne_nil nonempty with ⟨char, rest, rfl⟩
      exact ⟨char, rfl, .inl (all char List.mem_cons_self)⟩
  | @pointed whole _ _ _ _ all _ =>
      cases whole with
      | nil => exact ⟨'.', rfl, .inr rfl⟩
      | cons char rest => exact ⟨char, rfl, .inl (all char List.mem_cons_self)⟩

theorem unsigned (spelled : SpellsDecimal chars significand exponent) :
    ∀ char ∈ chars.head?, char ≠ '+' ∧ char ≠ '-' := by
  rcases spelled.head with ⟨char, first, shape⟩
  rw [first]
  rintro other ⟨⟩
  rcases shape with digit | rfl
  · exact ⟨ne_of_isDigit digit rfl, ne_of_isDigit digit rfl⟩
  · decide

theorem map_lowerAscii_ne (spelled : SpellsDecimal chars significand exponent) {letter : Char}
    {letters : List Char} (lettered : isDigit letter = false ∧ letter ≠ '.') :
    chars.map Text.lowerAscii ≠ letter :: letters := by
  rcases spelled.head with ⟨char, first, shape⟩
  have fixed : Text.lowerAscii char = char := by
    rcases shape with digit | rfl
    · exact lowerAscii_of_isDigit digit
    · rfl
  intro same
  have lowered := congrArg List.head? same
  rw [List.head?_map, first, Option.map_some, fixed, List.head?_cons, Option.some.injEq] at lowered
  subst lowered
  rcases shape with digit | pointed
  · exact absurd digit (Bool.eq_false_iff.mp lettered.1)
  · exact lettered.2 pointed

end SpellsDecimal

/-! ### Floating-point numbers -/

/-- Every text that is read belongs to the grammar. -/
theorem spellsReal_of_real? (read : real? chars = some real) : SpellsReal chars real := by
  rcases parts : splitSign chars with ⟨negative, unsigned⟩
  rcases exists_sign_of_splitSign parts with ⟨sign, rfl, signed, rfl⟩
  simp only [real?, parts] at read
  split at read
  · next word =>
      cases read
      exact .infinite signed (by simpa using word) (by simp [Binary64.isFinite])
  · split at read
    · next word =>
        cases read
        exact .undefined signed word
    · rcases Option.map_eq_some_iff.mp read with ⟨magnitude, decimal, rfl⟩
      rcases magnitude?_eq_some_iff.mp decimal with ⟨significand, exponent, spelled, rfl⟩
      exact .decimal signed spelled (Binary64.isRounded_ofDecimal significand exponent)

def Real.IsFinite : Real → Prop
  | .number _ magnitude => magnitude.isFinite = true
  | .undefined => False

/-- Every text of the grammar is read, and a finite number is read as it is. -/
theorem real?_of_spellsReal (spelled : SpellsReal chars real) :
    ∃ read, real? chars = some read ∧ (read = real ∨ ¬read.IsFinite ∧ ¬real.IsFinite) := by
  cases spelled with
  | @infinite sign word magnitude signed spelled unbounded =>
      have unsigned : ∀ char ∈ word.head?, char ≠ '+' ∧ char ≠ '-' := by
        simp only [List.mem_cons, List.not_mem_nil, or_false] at spelled
        rcases spelled with spelled | spelled
        · exact unsigned_of_word spelled (by decide)
        · exact unsigned_of_word spelled (by decide)
      refine ⟨.number (decide (sign = ['-'])) ⟨Binary64.infiniteCode⟩, ?_, .inr ⟨?_, ?_⟩⟩
      · have parts := splitSign_of_unsigned signed unsigned
        simp only [real?, parts]
        rw [if_pos (by simpa using spelled)]
      · simp [Real.IsFinite, Binary64.isFinite]
      · simp [Real.IsFinite, unbounded]
  | undefined signed spelled =>
      refine ⟨.undefined, ?_, .inl rfl⟩
      have parts := splitSign_of_unsigned signed (unsigned_of_word spelled (by decide))
      simp only [real?, parts, spelled]
      rfl
  | @decimal sign chars significand exponent magnitude signed spelled rounded =>
      have parts := splitSign_of_unsigned signed spelled.unsigned
      have infinite : chars.map Text.lowerAscii ≠ "inf".toList :=
        spelled.map_lowerAscii_ne (by decide)
      have infinity : chars.map Text.lowerAscii ≠ "infinity".toList :=
        spelled.map_lowerAscii_ne (by decide)
      have undefined : chars.map Text.lowerAscii ≠ "nan".toList :=
        spelled.map_lowerAscii_ne (by decide)
      have decimal := magnitude?_eq_some_iff.mpr ⟨significand, exponent, spelled, rfl⟩
      have again := Binary64.isRounded_ofDecimal significand exponent
      refine ⟨.number (decide (sign = ['-'])) (Binary64.ofDecimal significand exponent), ?_, ?_⟩
      · simp only [real?, parts, infinite, infinity, undefined, or_self, if_false, decimal,
          Option.map_some]
      · by_cases finite : magnitude.isFinite = true
        · rw [rounded.unique again finite]
          exact .inl rfl
        · refine .inr ⟨?_, finite⟩
          rw [rounded.isFinite_iff] at finite
          rw [Real.IsFinite, again.isFinite_iff]
          exact finite

end DecimalText

end ServingPreset
