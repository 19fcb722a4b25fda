import ServingPreset.Text.Lowercase

/-!
# Text in lower case

A text of characters that are their own lowercase forms is its own lowercase form. Such are
the characters of ASCII that are no capital letters, and all those that lowercasing writes:
the forms on one run of the table lie on no run, the dotted capital I becomes two characters
off the table, and either form of a sigma is small. So lowercasing a second time changes
nothing, and where a sigma stands does not matter any more. All forms are small letters or
characters above them, so digits, slashes and the like come through as they are.
-/

namespace ServingPreset

namespace Text

variable {char : Char}

namespace CaseRange

variable {run other : CaseRange} {code : Nat}

theorem covers_iff :
    run.covers code = true ↔
      (run.first ≤ code ∧ code ≤ run.last) ∧ (code - run.first) % run.stride = 0 := by
  simp [covers]

/-- The lowercase forms of one run are not on the other: they lie aside, or alternate with it. -/
def misses (run other : CaseRange) : Bool :=
  !other.first.ble (run.target + (run.last - run.first)) || !run.target.ble other.last ||
    ((run.stride.beq 2 || run.first.beq run.last) && other.stride.beq 2 &&
      ((run.target + other.first) % 2).beq 1)

theorem misses_iff :
    run.misses other = true ↔
      run.target + (run.last - run.first) < other.first ∨ other.last < run.target ∨
        (run.stride = 2 ∨ run.first = run.last) ∧ other.stride = 2 ∧
          (run.target + other.first) % 2 = 1 := by
  simp [misses, or_assoc, and_assoc, ← Bool.not_eq_true]

theorem not_covers_lower (misses : run.misses other = true) (covered : run.covers code = true) :
    other.covers (run.lower code) = false := by
  rw [covers_iff] at covered
  rcases covered with ⟨⟨first, last⟩, place⟩
  rw [Bool.eq_false_iff, ne_eq, covers_iff, lower]
  rintro ⟨⟨first', last'⟩, place'⟩
  rcases misses_iff.mp misses with below | above | ⟨even, alternating, odd⟩
  · omega
  · omega
  · have distance : (code - run.first) % 2 = 0 := by
      rcases even with two | single
      · rwa [two] at place
      · omega
    rw [alternating] at place'
    omega

/-- What holds of each run of the table: where it lies, and where its forms lie. -/
theorem limits_of_mem : ∀ run ∈ lowercaseRanges,
    ((run.first = 0x41 ∧ run.last = 0x5A) ∨ 0x80 ≤ run.first) ∧
      (['i', '\u0307', 'ς', 'σ'].all fun form => !run.covers form.toNat) = true ∧
      0x61 ≤ run.target ∧
      (run.target + (run.last - run.first) < 0x130 ∨ 0x130 < run.target) ∧
      (run.target + (run.last - run.first) < 0xD800 ∨
        0xDFFF < run.target ∧ run.target + (run.last - run.first) < 0x110000) := by
  decide +kernel

end CaseRange

/-! ### Characters that are their own forms -/

/-- Whether a character is its own lowercase form. -/
def IsLowered (char : Char) : Prop :=
  lowerChar char = [char]

instance (char : Char) : Decidable (IsLowered char) :=
  inferInstanceAs (Decidable (_ = _))

theorem isLowered_of_uncovered (undotted : char ≠ 'İ')
    (uncovered : ∀ run ∈ lowercaseRanges, run.covers char.toNat = false) : IsLowered char := by
  have missing : lowercaseRanges.find? (fun run => run.covers char.toNat) = none := by
    rw [List.find?_eq_none]
    intro run member
    rw [uncovered run member]
    exact Bool.false_ne_true
  rw [IsLowered, lowerChar, if_neg undotted, missing]

theorem ne_sigma_of_isLowered (lowered : IsLowered char) : char ≠ 'Σ' := by
  rintro rfl
  revert lowered
  decide +kernel

/-- Whether a character is in ASCII and no capital letter. -/
def isPlain (char : Char) : Bool :=
  char.toNat < 0x41 || (0x5A < char.toNat && char.toNat < 0x80)

theorem isPlain_iff :
    isPlain char = true ↔ char.toNat < 0x41 ∨ 0x5A < char.toNat ∧ char.toNat < 0x80 := by
  simp [isPlain]

/-- Only the first run of the table has code points in ASCII. -/
theorem isLowered_of_isPlain (plain : isPlain char = true) : IsLowered char := by
  have range := isPlain_iff.mp plain
  apply isLowered_of_uncovered
  · rintro rfl
    revert plain
    decide
  · intro run member
    rw [Bool.eq_false_iff, ne_eq, CaseRange.covers_iff]
    have place := (CaseRange.limits_of_mem run member).1
    omega

/-! ### Forms that the table gives -/

theorem misses_of_mem {run other : CaseRange} (member : run ∈ lowercaseRanges)
    (otherMember : other ∈ lowercaseRanges) : run.misses other = true := by
  have apart : (lowercaseRanges.all fun run => lowercaseRanges.all run.misses) = true := by
    decide +kernel
  exact List.all_eq_true.mp (List.all_eq_true.mp apart run member) other otherMember

/-- The forms on a run are code points, and none is the dotted capital I. -/
theorem isValidChar_lower {run : CaseRange} {code : Nat} (member : run ∈ lowercaseRanges)
    (covered : run.covers code = true) :
    (run.lower code).isValidChar ∧ run.lower code ≠ 0x130 := by
  rcases CaseRange.limits_of_mem run member with ⟨_, _, _, undotted, valid⟩
  have place := (CaseRange.covers_iff.mp covered).1
  rw [Nat.isValidChar, CaseRange.lower]
  omega

/-- The forms that lowercasing writes apart from the table are off the table as well. -/
theorem isLowered_of_mem_apart {form : Char} (member : form ∈ ['i', '\u0307', 'ς', 'σ']) :
    IsLowered form := by
  apply isLowered_of_uncovered
  · rintro rfl
    revert member
    decide
  · intro run listed
    rcases CaseRange.limits_of_mem run listed with ⟨_, uncovered, _⟩
    have off := List.all_eq_true.mp uncovered form member
    rwa [Bool.not_eq_true'] at off

/-- A form comes from the dotted capital I, is the character itself, or is found on a run. -/
theorem mem_lowerChar_cases {form : Char} (member : form ∈ lowerChar char) :
    form ∈ ['i', '\u0307'] ∨
      (form = char ∧ char ≠ 'İ' ∧ ∀ run ∈ lowercaseRanges, run.covers char.toNat = false) ∨
      ∃ run ∈ lowercaseRanges, run.covers char.toNat = true ∧
        form.toNat = run.lower char.toNat ∧ form ≠ 'İ' := by
  by_cases dotted : char = 'İ'
  · rw [lowerChar, if_pos dotted] at member
    exact .inl member
  · rw [lowerChar, if_neg dotted] at member
    cases found : lowercaseRanges.find? (fun run => run.covers char.toNat) with
    | none =>
        simp only [found, List.mem_singleton] at member
        exact .inr (.inl ⟨member, dotted, by simpa using found⟩)
    | some run =>
        simp only [found, List.mem_singleton] at member
        have listed := List.mem_of_find?_eq_some found
        have covered := List.find?_some found
        rcases isValidChar_lower listed covered with ⟨valid, undotted⟩
        have code : form.toNat = run.lower char.toNat := by
          rw [member, Char.ofNat, dif_pos valid]
          rfl
        refine .inr (.inr ⟨run, listed, covered, code, ?_⟩)
        rintro rfl
        exact undotted code.symm

theorem isLowered_of_mem_lowerChar {form : Char} (member : form ∈ lowerChar char) :
    IsLowered form := by
  rcases mem_lowerChar_cases member with
    apart | ⟨rfl, undotted, uncovered⟩ | ⟨run, listed, covered, code, undotted⟩
  · exact isLowered_of_mem_apart (List.mem_append_left ['ς', 'σ'] apart)
  · exact isLowered_of_uncovered undotted uncovered
  · apply isLowered_of_uncovered undotted
    intro other otherListed
    rw [code]
    exact CaseRange.not_covers_lower (misses_of_mem listed otherListed) covered

/-- No form is written below the small letters but a character that stood there. -/
theorem eq_of_mem_lowerChar {form : Char} (below : form.toNat < 0x61)
    (member : form ∈ lowerChar char) : form = char := by
  rcases mem_lowerChar_cases member with apart | ⟨same, _⟩ | ⟨run, listed, _, code, _⟩
  · exfalso
    simp only [List.mem_cons, List.not_mem_nil, or_false] at apart
    rcases apart with rfl | rfl <;> revert below <;> decide
  · exact same
  · rcases CaseRange.limits_of_mem run listed with ⟨_, _, small, _⟩
    rw [code, CaseRange.lower] at below
    omega

/-! ### Texts -/

theorem lowercaseAfter_of_isLowered {chars : List Char} (before : List Char)
    (lowered : ∀ char ∈ chars, IsLowered char) : lowercaseAfter before chars = chars := by
  induction chars generalizing before with
  | nil => rfl
  | cons char rest ih =>
      have first := lowered char List.mem_cons_self
      have others : ∀ other ∈ rest, IsLowered other :=
        fun other member => lowered other (List.mem_cons_of_mem char member)
      rw [lowercaseAfter, if_neg (ne_sigma_of_isLowered first), first, ih (char :: before) others]
      rfl

theorem isLowered_of_mem_lowercaseAfter {before chars : List Char} {form : Char}
    (member : form ∈ lowercaseAfter before chars) : IsLowered form := by
  induction chars generalizing before with
  | nil => contradiction
  | cons char rest ih =>
      rw [lowercaseAfter, List.mem_append] at member
      rcases member with here | later
      · split at here
        · apply isLowered_of_mem_apart
          rw [List.mem_singleton] at here
          split at here <;> simp [here]
        · exact isLowered_of_mem_lowerChar here
      · exact ih later

theorem mem_of_mem_lowercaseAfter {before chars : List Char} {form : Char}
    (below : form.toNat < 0x61) (member : form ∈ lowercaseAfter before chars) : form ∈ chars := by
  induction chars generalizing before with
  | nil => contradiction
  | cons char rest ih =>
      rw [lowercaseAfter, List.mem_append] at member
      rcases member with here | later
      · split at here
        · exfalso
          rw [List.mem_singleton] at here
          split at here <;> subst here <;> revert below <;> decide
        · rw [eq_of_mem_lowerChar below here]
          exact List.mem_cons_self
      · exact List.mem_cons_of_mem char (ih later)

theorem lowercase_of_isLowered {text : String} (lowered : ∀ char ∈ text.toList, IsLowered char) :
    lowercase text = text := by
  rw [lowercase, lowercaseAfter_of_isLowered [] lowered, String.ofList_toList]

theorem lowercase_of_plain {text : String} (plain : ∀ char ∈ text.toList, isPlain char = true) :
    lowercase text = text :=
  lowercase_of_isLowered fun char member => isLowered_of_isPlain (plain char member)

/-- A text in lower case is its own lowercase form. -/
@[simp]
theorem lowercase_lowercase (text : String) : lowercase (lowercase text) = lowercase text := by
  apply lowercase_of_isLowered
  intro form member
  rw [lowercase, String.toList_ofList] at member
  exact isLowered_of_mem_lowercaseAfter member

/-- Lowercasing brings in no character below the small letters. -/
theorem mem_of_mem_lowercase {text : String} {form : Char} (below : form.toNat < 0x61)
    (member : form ∈ (lowercase text).toList) : form ∈ text.toList := by
  rw [lowercase, String.toList_ofList] at member
  exact mem_of_mem_lowercaseAfter below member

theorem lowerChar_ne_nil (char : Char) : lowerChar char ≠ [] := by
  rw [lowerChar]
  split
  · simp
  · split <;> simp

theorem lowercase_ne_empty {text : String} (nonempty : text ≠ "") : lowercase text ≠ "" := by
  intro empty
  apply nonempty
  rw [lowercase, String.ofList_eq_empty_iff] at empty
  cases chars : text.toList with
  | nil => exact String.toList_eq_nil_iff.mp chars
  | cons char rest =>
      exfalso
      rw [chars, lowercaseAfter, List.append_eq_nil_iff] at empty
      have first := empty.1
      split at first
      · contradiction
      · exact lowerChar_ne_nil char first

end Text

end ServingPreset
