import ServingPreset.Proofs.Text.Cut

/-!
# Stripped text

Characters of a class are dropped from the front of a text and then from the back. What is
left has none of them at its ends (`Text.isStripped_strip`), nothing else is lost
(`Text.exists_strip`), and a text without them at its ends stays as it is. White space and
marks are two such classes.
-/

namespace ServingPreset

namespace Text

variable {mark : Char} {chars : List Char} {drops : Char → Bool}

/-- The characters without those at either end that are dropped. -/
def strip (drops : Char → Bool) (chars : List Char) : List Char :=
  (chars.dropWhile drops).rdropWhile drops

/-- Whether no character at either end is dropped. -/
structure IsStripped (drops : Char → Bool) (chars : List Char) : Prop where
  first : ∀ char ∈ chars.head?, drops char = false
  last : ∀ char ∈ chars.getLast?, drops char = false

theorem not_drops_of_head?_dropWhile {char : Char}
    (found : (chars.dropWhile drops).head? = some char) : drops char = false := by
  have kept := List.head?_dropWhile_not drops chars
  rwa [found] at kept

theorem isStripped_strip (drops : Char → Bool) (chars : List Char) :
    IsStripped drops (strip drops chars) where
  first char found := by
    rcases List.rdropWhile_prefix drops (chars.dropWhile drops) with ⟨back, split⟩
    have head : (chars.dropWhile drops).head? = some char := by
      rw [← split, List.head?_append]
      exact congrArg (Option.or · _) found
    exact not_drops_of_head?_dropWhile head
  last char found := by
    rw [strip, List.rdropWhile, List.getLast?_reverse] at found
    exact not_drops_of_head?_dropWhile found

theorem dropWhile_eq_self (first : ∀ char ∈ chars.head?, drops char = false) :
    chars.dropWhile drops = chars := by
  cases chars with
  | nil => rfl
  | cons char rest => exact List.dropWhile_cons_of_neg (by simp [first char rfl])

theorem strip_eq_self (stripped : IsStripped drops chars) : strip drops chars = chars := by
  rw [strip, dropWhile_eq_self stripped.first, List.rdropWhile_eq_self_iff]
  intro nonempty
  simp [stripped.last _ (List.getLast_mem_getLast? nonempty)]

theorem strip_eq_self_iff : strip drops chars = chars ↔ IsStripped drops chars :=
  ⟨fun same => same ▸ isStripped_strip drops chars, strip_eq_self⟩

theorem strip_eq_nil_iff : strip drops chars = [] ↔ ∀ char ∈ chars, drops char = true := by
  rw [strip, List.rdropWhile_eq_nil_iff]
  constructor
  · intro dropped char member
    rw [← List.takeWhile_append_dropWhile (p := drops) (l := chars)] at member
    rcases List.mem_append.mp member with front | rest
    · exact List.mem_takeWhile_imp front
    · exact dropped char rest
  · intro dropped char member
    exact dropped char ((List.dropWhile_suffix drops).subset member)

theorem exists_strip (drops : Char → Bool) (chars : List Char) :
    ∃ front back, chars = front ++ strip drops chars ++ back ∧
      (∀ char ∈ front, drops char = true) ∧ ∀ char ∈ back, drops char = true := by
  refine ⟨chars.takeWhile drops, (chars.dropWhile drops).rtakeWhile drops, ?_, ?_, ?_⟩
  · rw [strip, List.append_assoc, List.rdropWhile_append_rtakeWhile,
      List.takeWhile_append_dropWhile]
  · exact fun char member => List.mem_takeWhile_imp member
  · exact fun char member => List.mem_rtakeWhile_imp member

theorem strip_infix (drops : Char → Bool) (chars : List Char) : strip drops chars <:+: chars := by
  rcases exists_strip drops chars with ⟨front, back, split, _, _⟩
  exact ⟨front, back, split.symm⟩

theorem rdropWhile_append_of_pos {back : List Char} (dropped : ∀ char ∈ back, drops char = true)
    (chars : List Char) : (chars ++ back).rdropWhile drops = chars.rdropWhile drops := by
  have turned : ∀ char ∈ back.reverse, drops char = true := by simpa using dropped
  rw [List.rdropWhile, List.reverse_append, List.dropWhile_append_of_pos turned, List.rdropWhile]

theorem strip_append {front back : List Char} (frontDropped : ∀ char ∈ front, drops char = true)
    (backDropped : ∀ char ∈ back, drops char = true) (chars : List Char) :
    strip drops (front ++ chars ++ back) = strip drops chars := by
  rw [strip, List.append_assoc, List.dropWhile_append_of_pos frontDropped]
  rw [List.dropWhile_append, List.dropWhile_eq_nil_iff.mpr backDropped]
  split
  · next empty => rw [strip, List.isEmpty_iff.mp empty]
  · rw [rdropWhile_append_of_pos backDropped, strip]

theorem rdropWhile_append_cons (kept : drops mark = false) (before after : List Char) :
    (before ++ mark :: after).rdropWhile drops = before ++ mark :: after.rdropWhile drops := by
  have turned : (before ++ mark :: after).reverse = after.reverse ++ mark :: before.reverse := by
    simp
  rw [List.rdropWhile, turned, dropWhile_append_cons kept, List.rdropWhile]
  simp

theorem strip_of_last (last : ∀ char ∈ chars.getLast?, drops char = false) :
    strip drops chars = chars.dropWhile drops := by
  rw [strip, List.rdropWhile_eq_self_iff]
  intro nonempty
  rcases List.dropWhile_suffix (l := chars) drops with ⟨front, split⟩
  have ends := congrArg List.getLast? split
  rw [List.getLast?_append, List.getLast?_eq_some_getLast nonempty] at ends
  rw [Bool.not_eq_true]
  exact last _ ends.symm

/-! ### Marks around a text -/

theorem dropAround_eq_strip (mark : Char) (chars : List Char) :
    dropAround mark chars = strip (· == mark) chars := rfl

theorem dropAround_eq_nil_iff : dropAround mark chars = [] ↔ ∀ char ∈ chars, char = mark := by
  simp only [dropAround_eq_strip, strip_eq_nil_iff, beq_iff_eq]

theorem exists_dropAround (mark : Char) (chars : List Char) :
    ∃ front back, chars =
      List.replicate front mark ++ dropAround mark chars ++ List.replicate back mark := by
  rcases exists_strip (· == mark) chars with ⟨front, back, split, frontMarks, backMarks⟩
  simp only [beq_iff_eq] at frontMarks backMarks
  refine ⟨front.length, back.length, ?_⟩
  rwa [dropAround_eq_strip, ← List.eq_replicate_of_mem frontMarks,
    ← List.eq_replicate_of_mem backMarks]

theorem head?_dropAround (mark : Char) (chars : List Char) :
    (dropAround mark chars).head? ≠ some mark := by
  intro first
  have other := (isStripped_strip (· == mark) chars).first mark first
  simp at other

theorem getLast?_dropAround (mark : Char) (chars : List Char) :
    (dropAround mark chars).getLast? ≠ some mark := by
  intro last
  have other := (isStripped_strip (· == mark) chars).last mark last
  simp at other

/-- A text without marks at its ends stays as it is. -/
theorem dropAround_eq_self (first : chars.head? ≠ some mark) (last : chars.getLast? ≠ some mark) :
    dropAround mark chars = chars := by
  apply strip_eq_self
  constructor
  · intro char found
    rw [beq_eq_false_iff_ne]
    rintro rfl
    exact first found
  · intro char found
    rw [beq_eq_false_iff_ne]
    rintro rfl
    exact last found

end Text

end ServingPreset
