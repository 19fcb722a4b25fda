import Mathlib.Data.List.DropRight
import ServingPreset.Text.Cut

/-!
# Cut text

A cut at a mark leaves what stands on the other side of the mark as it is, and a cut at the
first or the last mark takes apart what was joined by it (`Text.beforeFirst_eq_iff`,
`Text.afterLast_eq_iff`). Marks at the end of a text are dropped, however many there are, and
an ending comes off the text that it was put behind. A segment is free of marks and lies
between two of them, or between one and an end of the text.
-/

namespace ServingPreset

namespace Text

variable {mark : Char} {chars part : List Char} {accepts : Char → Bool}

/-! ### A mark that is not accepted -/

theorem dropWhile_append_cons (rejected : accepts mark = false) (before after : List Char) :
    (before ++ mark :: after).dropWhile accepts = before.dropWhile accepts ++ mark :: after := by
  induction before with
  | nil => simp [rejected]
  | cons char before ih =>
      rw [List.cons_append, List.dropWhile_cons, List.dropWhile_cons, ih]
      split <;> rfl

/-! ### The first mark -/

theorem beforeFirst_append_of_notMem {before : List Char} (fresh : mark ∉ before)
    (after : List Char) : beforeFirst mark (before ++ after) = before ++ beforeFirst mark after := by
  apply List.takeWhile_append_of_pos
  intro char member
  simp only [bne_iff_ne]
  rintro rfl
  exact fresh member

theorem beforeFirst_append {before : List Char} (fresh : mark ∉ before) (after : List Char) :
    beforeFirst mark (before ++ mark :: after) = before := by
  have ends : beforeFirst mark (mark :: after) = [] := List.takeWhile_cons_of_neg (by simp)
  rw [beforeFirst_append_of_notMem fresh, ends, List.append_nil]

theorem beforeFirst_eq_self (fresh : mark ∉ chars) : beforeFirst mark chars = chars := by
  simpa [beforeFirst] using beforeFirst_append_of_notMem fresh []

/-- A text is cut at its first mark, and left whole if it has none. -/
theorem beforeFirst_eq_iff :
    beforeFirst mark chars = part ↔
      mark ∉ part ∧ (chars = part ∨ ∃ after, chars = part ++ mark :: after) := by
  constructor
  · rintro rfl
    by_cases member : mark ∈ chars
    · rcases List.eq_append_cons_of_mem member with ⟨before, after, rfl, fresh⟩
      rw [beforeFirst_append fresh]
      exact ⟨fresh, .inr ⟨after, rfl⟩⟩
    · rw [beforeFirst_eq_self member]
      exact ⟨member, .inl rfl⟩
  · rintro ⟨fresh, rfl | ⟨after, rfl⟩⟩
    · exact beforeFirst_eq_self fresh
    · exact beforeFirst_append fresh after

theorem exists_rest_of_beforeFirst (mark : Char) (chars : List Char) :
    ∃ rest, chars = beforeFirst mark chars ++ rest ∧ ∀ char ∈ rest.head?, char = mark := by
  rcases beforeFirst_eq_iff.mp rfl with ⟨_, whole | ⟨after, cut⟩⟩
  · exact ⟨[], by rwa [List.append_nil], fun _ found => nomatch found⟩
  · exact ⟨mark :: after, cut, fun _ found => (Option.some.inj found).symm⟩

theorem afterFirst?_append {before : List Char} (fresh : mark ∉ before) (after : List Char) :
    afterFirst? mark (before ++ mark :: after) = some after := by
  induction before with
  | nil => exact if_pos rfl
  | cons char before ih =>
      rw [List.mem_cons, not_or] at fresh
      rw [List.cons_append, afterFirst?, if_neg (Ne.symm fresh.1), ih fresh.2]

theorem afterFirst?_eq_none (fresh : mark ∉ chars) : afterFirst? mark chars = none := by
  induction chars with
  | nil => rfl
  | cons char rest ih =>
      rw [List.mem_cons, not_or] at fresh
      rw [afterFirst?, if_neg (Ne.symm fresh.1), ih fresh.2]

/-! ### The last mark -/

theorem afterLast_eq_iff :
    afterLast mark chars = part ↔
      mark ∉ part ∧ (chars = part ∨ ∃ before, chars = before ++ mark :: part) := by
  have turned : afterLast mark chars = part ↔ beforeFirst mark chars.reverse = part.reverse := by
    rw [afterLast, beforeFirst, List.reverse_eq_iff]
  rw [turned, beforeFirst_eq_iff, List.mem_reverse, List.reverse_inj]
  apply and_congr_right
  intro _
  apply or_congr_right
  constructor
  · rintro ⟨after, split⟩
    refine ⟨after.reverse, ?_⟩
    rw [List.reverse_eq_iff.mp split]
    simp
  · rintro ⟨before, rfl⟩
    exact ⟨before.reverse, by simp⟩

theorem afterLast_ne_nil (nonempty : chars ≠ []) (last : chars.getLast? ≠ some mark) :
    afterLast mark chars ≠ [] := by
  intro none
  rcases (afterLast_eq_iff.mp none).2 with empty | ⟨before, marked⟩
  · exact nonempty empty
  · apply last
    rw [marked, List.getLast?_concat]

/-! ### Marks at the end -/

theorem dropTrailing_eq (mark : Char) (chars : List Char) :
    dropTrailing mark chars = chars.rdropWhile (· == mark) := rfl

theorem dropTrailing_eq_self (last : chars.getLast? ≠ some mark) :
    dropTrailing mark chars = chars := by
  rw [dropTrailing_eq, List.rdropWhile_eq_self_iff]
  intro nonempty marked
  apply last
  rw [List.getLast?_eq_some_getLast nonempty, eq_of_beq marked]

theorem dropTrailing_append_replicate (mark : Char) (chars : List Char) (count : Nat) :
    dropTrailing mark (chars ++ List.replicate count mark) = dropTrailing mark chars := by
  induction count with
  | zero => rw [List.replicate_zero, List.append_nil]
  | succ count ih =>
      rw [List.replicate_succ', ← List.append_assoc, dropTrailing_eq,
        List.rdropWhile_concat_pos (· == mark) _ mark (beq_self_eq_true mark)]
      exact ih

theorem withoutEnding?_append (ending chars : List Char) :
    withoutEnding? ending (chars ++ ending) = some chars := by
  simp [withoutEnding?]

theorem withoutEnding?_eq_some_iff {ending : List Char} :
    withoutEnding? ending chars = some part ↔ chars = part ++ ending := by
  constructor
  · intro found
    unfold withoutEnding? at found
    split at found
    · next ends =>
        rcases List.isSuffixOf_iff_suffix.mp ends with ⟨front, rfl⟩
        simpa using found
    · contradiction
  · rintro rfl
    exact withoutEnding?_append ending part

/-- A start and an ending that cannot overlap are found together around some text. -/
theorem exists_between_iff {start ending : List Char} (fresh : mark ∉ start) :
    start <+: chars ∧ mark :: ending <:+ chars ↔
      ∃ between, chars = start ++ between ++ mark :: ending := by
  constructor
  · rintro ⟨⟨after, rfl⟩, ⟨before, meets⟩⟩
    rcases List.append_eq_append_iff.mp meets with ⟨rest, whole, tail⟩ | ⟨rest, _, tail⟩
    · cases rest with
      | nil =>
          rw [List.nil_append] at tail
          exact ⟨[], by rw [List.append_nil, tail]⟩
      | cons char others =>
          rw [List.cons_append, List.cons_eq_cons] at tail
          rw [whole, tail.1] at fresh
          exact absurd (List.mem_append_right _ List.mem_cons_self) fresh
    · exact ⟨rest, by rw [tail, List.append_assoc]⟩
  · rintro ⟨between, rfl⟩
    refine ⟨⟨between ++ mark :: ending, ?_⟩, ⟨start ++ between, rfl⟩⟩
    rw [List.append_assoc]

/-- A pattern that ends with a mark does not reach into a back without the mark. -/
theorem infix_of_infix_append {pattern back : List Char} (ends : pattern.getLast? = some mark)
    (fresh : mark ∉ back) (found : pattern <:+: chars ++ back) : pattern <:+: chars := by
  rcases found with ⟨before, after, split⟩
  rcases List.append_eq_append_iff.mp split with ⟨rest, whole, _⟩ | ⟨rest, whole, tail⟩
  · exact ⟨before, rest, whole.symm⟩
  · rcases List.eq_nil_or_concat' rest with rfl | ⟨initial, last, rfl⟩
    · rw [List.append_nil] at whole
      exact ⟨before, [], by rw [List.append_nil, whole]⟩
    · have same := congrArg List.getLast? whole
      rw [List.getLast?_append, ends, ← List.append_assoc, List.getLast?_concat] at same
      rw [tail, ← Option.some.inj same] at fresh
      simp at fresh

/-! ### Segments -/

theorem segments_eq_splitOn (mark : Char) (chars : List Char) :
    segments mark chars = chars.splitOn mark := by
  induction chars with
  | nil => rfl
  | cons char rest ih =>
      rw [segments, ih, List.splitOn_cons_eq_if_modifyHead]
      by_cases marked : char = mark
      · simp [marked]
      · have parts := List.splitOn_ne_nil mark rest
        cases split : rest.splitOn mark with
        | nil => contradiction
        | cons head tail => simp [marked]

theorem intercalate_cons_eq_append_flatMap (mark : Char) (head : List Char)
    (parts : List (List Char)) :
    [mark].intercalate (head :: parts) = head ++ parts.flatMap (mark :: ·) := by
  induction parts generalizing head with
  | nil => simp
  | cons next later ih =>
      have behind := ih next
      simp only [List.intercalate, List.intersperse_cons_cons, List.flatten_cons] at behind ⊢
      rw [behind]
      simp

/-- Parts without the mark are the segments behind their marks. -/
theorem segments_flatMap_cons {parts : List (List Char)} (fresh : ∀ part ∈ parts, mark ∉ part) :
    segments mark (parts.flatMap (mark :: ·)) = [] :: parts := by
  have joined := intercalate_cons_eq_append_flatMap mark [] parts
  rw [List.nil_append] at joined
  rw [segments_eq_splitOn, ← joined]
  apply List.splitOn_intercalate
  · simpa using fresh
  · exact List.cons_ne_nil _ _

/-- A segment stands behind a mark, or at the start, and a mark follows it, or the end. -/
theorem exists_around_of_mem_splitOn (mark : Char) (chars part : List Char)
    (member : part ∈ chars.splitOn mark) :
    mark ∉ part ∧ ∃ before after, mark :: chars = before ++ mark :: (part ++ after) ∧
      ∀ char ∈ after.head?, char = mark := by
  by_cases marked : mark ∈ chars
  · rcases List.eq_append_cons_of_mem marked with ⟨first, rest, whole, fresh⟩
    rw [whole, List.splitOn_append_cons_self_of_not_mem fresh, List.mem_cons] at member
    rcases member with rfl | later
    · refine ⟨fresh, [], mark :: rest, ?_, fun char found => (Option.some.inj found).symm⟩
      rw [whole, List.nil_append]
    · rcases exists_around_of_mem_splitOn mark rest part later with
        ⟨unmarked, before, after, split, ends⟩
      refine ⟨unmarked, mark :: first ++ before, after, ?_, ends⟩
      rw [List.append_assoc, ← split, whole, List.cons_append]
  · rw [List.splitOn_eq_singleton marked, List.mem_singleton] at member
    rw [member]
    exact ⟨marked, [], [], by simp, fun _ found => nomatch found⟩
termination_by chars.length
decreasing_by
  rw [whole, List.length_append, List.length_cons]
  omega

end Text

end ServingPreset
