import ServingPreset.Proofs.Repository

/-!
# Identifiers that are read again

An identifier that is read again is trimmed once more, so it stays what it is exactly if no
white space stands at its ends (`Repository.ofText_again`). The ends of an identifier are ends
of the trimmed text, or they meet what is cut off: a slash, or the mark of a query or a
fragment. White space is left there, since texts are trimmed before they are cut.
-/

namespace ServingPreset

namespace Repository

variable {text : String} {chars : List Char} {repository : Repository}

/-! ### The ends of an identifier -/

theorem head_of_identifier? {id : List Char} {char : Char} (identified : identifier? chars = some id)
    (first : id.head? = some char) :
    ∃ before after, chars = before ++ char :: after ∧
      ∀ previous ∈ before.getLast?, previous = '/' := by
  cases found : behindScheme? chars with
  | some location =>
      rcases (identifier?_of_link found).mp identified with ⟨owner, name, others, parts, rfl⟩
      rcases behindScheme?_eq_some_iff.mp found with ⟨scheme, rfl, _⟩
      have member : owner ∈ pathParts location := by simp [parts]
      rcases around_of_mem_pathParts member with ⟨owned, _, before, after, rfl, _⟩
      rw [List.head?_append_of_ne_nil _ owned] at first
      rcases List.head?_eq_some_iff.mp first with ⟨rest, rfl⟩
      refine ⟨scheme ++ [':', '/', '/'] ++ before ++ ['/'], rest ++ after, by simp, ?_⟩
      intro previous stands
      rw [List.getLast?_concat] at stands
      exact (Option.some.inj stands).symm
  | none =>
      rcases (identifier?_of_plain found).mp identified with ⟨_, rfl⟩
      rcases List.head?_eq_some_iff.mp first with ⟨rest, trimmed⟩
      rcases Text.exists_dropAround '/' chars with ⟨front, back, split⟩
      rw [trimmed] at split
      refine ⟨List.replicate front '/', rest ++ List.replicate back '/', ?_, ?_⟩
      · simpa using split
      · intro previous last
        exact List.eq_of_mem_replicate (List.mem_of_getLast? last)

theorem last_of_identifier? {id : List Char} {char : Char} (identified : identifier? chars = some id)
    (last : id.getLast? = some char) :
    ∃ before after, chars = before ++ char :: after ∧ ∀ next ∈ after.head?, next = '/' := by
  cases found : behindScheme? chars with
  | some location =>
      rcases (identifier?_of_link found).mp identified with ⟨owner, name, others, parts, rfl⟩
      rcases behindScheme?_eq_some_iff.mp found with ⟨scheme, rfl, _⟩
      have member : name ∈ pathParts location := by simp [parts]
      rcases around_of_mem_pathParts member with ⟨named, _, before, after, rfl, ends⟩
      rw [List.append_cons, List.getLast?_append_of_ne_nil _ named] at last
      rcases List.getLast?_eq_some_iff.mp last with ⟨initial, rfl⟩
      refine ⟨scheme ++ [':', '/', '/'] ++ before ++ '/' :: initial, after, by simp, ends⟩
  | none =>
      rcases (identifier?_of_plain found).mp identified with ⟨_, rfl⟩
      rcases List.getLast?_eq_some_iff.mp last with ⟨initial, trimmed⟩
      rcases Text.exists_dropAround '/' chars with ⟨front, back, split⟩
      rw [trimmed] at split
      refine ⟨List.replicate front '/' ++ initial, List.replicate back '/', ?_, ?_⟩
      · simpa using split
      · intro next first
        exact List.eq_of_mem_replicate (List.mem_of_mem_head? first)

/-- Whether white space stands neither behind a slash nor before a slash or a mark. -/
def IsSheltered (chars : List Char) : Prop :=
  ∀ before blank after, chars = before ++ blank :: after → Text.isBlank blank = true →
    before.getLast? ≠ some '/' ∧ ∀ next ∈ after.head?, next ∉ ['/', '?', '#']

theorem first_of_isSheltered (sheltered : IsSheltered (Text.trimChars text.toList))
    (named : ofText text = .ok repository) :
    ∀ char ∈ repository.id.toList.head?, Text.isBlank char = false := by
  intro char first
  rw [← Bool.not_eq_true]
  intro blank
  rcases head_of_identifier? (ofText_eq_ok_iff.mp named) first with
    ⟨before, after, whole, slashed⟩
  rcases exists_rest_of_essence text with ⟨rest, split, _⟩
  rw [whole, List.append_assoc, List.cons_append] at split
  -- Either the trimmed text begins here, or a slash stands before.
  cases stands : before.getLast? with
  | none =>
      rw [List.getLast?_eq_none_iff] at stands
      have trimmed := (Text.isStripped_strip Text.isBlank text.toList).first char
      rw [← Text.trimChars_eq_strip, split, stands] at trimmed
      rw [trimmed rfl] at blank
      contradiction
  | some previous =>
      apply (sheltered before char (after ++ rest) split blank).1
      rw [stands, slashed previous stands]

theorem last_of_isSheltered (sheltered : IsSheltered (Text.trimChars text.toList))
    (named : ofText text = .ok repository) :
    ∀ char ∈ repository.id.toList.getLast?, Text.isBlank char = false := by
  intro char last
  rw [← Bool.not_eq_true]
  intro blank
  rcases last_of_identifier? (ofText_eq_ok_iff.mp named) last with
    ⟨before, after, whole, slashed⟩
  rcases exists_rest_of_essence text with ⟨rest, split, cut⟩
  rw [whole, List.append_assoc, List.cons_append] at split
  have follows := (sheltered before char (after ++ rest) split blank).2
  -- A slash follows, or else a mark that cuts, or else the trimmed text ends here.
  cases after with
  | cons next others =>
      apply follows next rfl
      simp [slashed next rfl]
  | nil =>
      cases rest with
      | nil =>
          have trimmed := (Text.isStripped_strip Text.isBlank text.toList).last char
          rw [← Text.trimChars_eq_strip, split] at trimmed
          rw [trimmed (by simp)] at blank
          contradiction
      | cons mark others =>
          apply follows mark rfl
          rcases cut mark rfl with rfl | rfl
          · simp
          · simp

/-! ### Reading again -/

theorem ofText_id (formed : WellFormed repository) :
    ofText repository.id =
      let again := Text.dropAround '/' (Text.trimChars repository.id.toList)
      if again = [] then .error .missingRepository else .ok ⟨String.ofList again⟩ := by
  have inside := Text.strip_infix Text.isBlank repository.id.toList
  rw [← Text.trimChars_eq_strip] at inside
  have plain : behindScheme? (Text.trimChars repository.id.toList) = none :=
    behindScheme?_eq_none_iff.mpr fun schemed => formed.unschemed (schemed.trans inside)
  rw [ofText, essence_of_unmarked formed.unqueried formed.unfragmented]
  simp only [identifier?, plain]
  cases Text.dropAround '/' (Text.trimChars repository.id.toList) <;> simp

/-- An identifier is a fixed point of reading exactly if it is trimmed. -/
theorem ofText_id_eq_self_iff (formed : WellFormed repository) :
    ofText repository.id = .ok repository ↔ Text.trim repository.id = repository.id := by
  rw [ofText_id formed, Text.trim_eq_iff]
  constructor
  · intro same
    simp only at same
    split at same
    · contradiction
    · have again := congrArg (fun other => other.id.toList) (Except.ok.inj same)
      simp only [String.toList_ofList] at again
      have unslashed := Text.strip_infix (· == '/') (Text.trimChars repository.id.toList)
      have trimmed := Text.strip_infix Text.isBlank repository.id.toList
      rw [← Text.dropAround_eq_strip, again] at unslashed
      rw [← Text.trimChars_eq_strip] at trimmed
      exact trimmed.eq_of_length (Nat.le_antisymm trimmed.length_le unslashed.length_le)
  · intro trimmed
    have again : Text.dropAround '/' (Text.trimChars repository.id.toList) = repository.id.toList := by
      rw [trimmed]
      exact Text.dropAround_eq_self formed.unslashedFirst formed.unslashedLast
    simp only [again, if_neg formed.toList_ne_nil, String.ofList_toList]

/-- White space behind an identifier leaves no trace of a link. -/
theorem wellFormed_append_blank {blanks : String} (formed : WellFormed repository)
    (blank : Text.blank blanks = true) : WellFormed ⟨repository.id ++ blanks⟩ := by
  have fresh {char : Char} (kept : Text.isBlank char = false) : char ∉ blanks.toList :=
    Text.notMem_of_blank blank kept
  constructor
  all_goals simp only [String.toList_append]
  · simp [formed.nonempty]
  · simp [formed.unqueried, fresh (by decide : Text.isBlank '?' = false)]
  · simp [formed.unfragmented, fresh (by decide : Text.isBlank '#' = false)]
  · intro schemed
    exact formed.unschemed (Text.infix_of_infix_append rfl (fresh (by decide)) schemed)
  · rw [List.head?_append_of_ne_nil _ formed.toList_ne_nil]
    exact formed.unslashedFirst
  · rw [List.getLast?_append, ne_eq, Option.or_eq_some_iff]
    rintro (inBlanks | ⟨_, inId⟩)
    · exact fresh (by decide) (List.mem_of_getLast? inBlanks)
    · exact formed.unslashedLast inId

/-- White space before a query or a fragment becomes part of the identifier. -/
theorem ofText_id_append_marked {blanks : String} {mark : Char} (formed : WellFormed repository)
    (trimmed : Text.trim repository.id = repository.id) (blank : Text.blank blanks = true)
    (cuts : mark = '?' ∨ mark = '#') (extra : String) :
    ofText (repository.id ++ blanks ++ String.singleton mark ++ extra) =
      .ok ⟨repository.id ++ blanks⟩ := by
  have longer := wellFormed_append_blank formed blank
  have split : (repository.id ++ blanks ++ String.singleton mark ++ extra).toList =
      (repository.id ++ blanks).toList ++ mark :: extra.toList := by simp
  have kept : (repository.id ++ blanks).toList.dropWhile Text.isBlank =
      (repository.id ++ blanks).toList := by
    apply Text.dropWhile_eq_self
    intro char first
    rw [String.toList_append, List.head?_append_of_ne_nil _ formed.toList_ne_nil] at first
    exact (Text.trim_eq_self_iff.mp trimmed).first char first
  have plain := behindScheme?_eq_none_iff.mpr longer.unschemed
  rw [ofText_eq_ok_iff, essence_of_marked cuts longer.unqueried longer.unfragmented split, kept,
    identifier?_of_plain plain]
  refine ⟨?_, (Text.dropAround_eq_self longer.unslashedFirst longer.unslashedLast).symm⟩
  exact longer.toList_ne_nil

/--
An identifier that is read again is trimmed and loses slashes at its ends, and nothing else.
It stays what it is exactly if it has no white space at its ends, and then it is not blank.
That is so unless white space of the trimmed text touches a slash or a mark; white space
before a query or a fragment always stays.
-/
theorem ofText_again (text : String) (repository : Repository)
    (named : ofText text = .ok repository) :
    let again := Text.dropAround '/' (Text.trimChars repository.id.toList)
    (ofText repository.id =
        if again = [] then .error .missingRepository else .ok ⟨String.ofList again⟩) ∧
      (ofText repository.id = .ok repository ↔ Text.trim repository.id = repository.id) ∧
      (Text.trim repository.id = repository.id → Text.blank repository.id = false) ∧
      (IsSheltered (Text.trimChars text.toList) → Text.trim repository.id = repository.id) ∧
      (Text.trim repository.id = repository.id → ∀ blanks extra, Text.blank blanks = true →
        ofText (repository.id ++ blanks ++ "?" ++ extra) = .ok ⟨repository.id ++ blanks⟩ ∧
          ofText (repository.id ++ blanks ++ "#" ++ extra) = .ok ⟨repository.id ++ blanks⟩) := by
  have formed := wellFormed_of_ofText named
  refine ⟨ofText_id formed, ofText_id_eq_self_iff formed, ?_, ?_, ?_⟩
  · exact Text.not_blank_of_trim formed.nonempty
  · intro sheltered
    exact Text.trim_eq_self_iff.mpr
      ⟨first_of_isSheltered sheltered named, last_of_isSheltered sheltered named⟩
  · intro trimmed blanks extra blank
    exact ⟨ofText_id_append_marked formed trimmed blank (.inl rfl) extra,
      ofText_id_append_marked formed trimmed blank (.inr rfl) extra⟩

/-- A link with white space around it. -/
theorem ofText_again_link :
    let text := " https://huggingface.co/Qwen/Qwen3-8B/tree/main?x "
    ofText text = .ok ⟨"Qwen/Qwen3-8B"⟩ ∧ IsSheltered (Text.trimChars text.toList) ∧
      ofText "Qwen/Qwen3-8B" = .ok ⟨"Qwen/Qwen3-8B"⟩ := by
  intro text
  have named : ofText text = .ok ⟨"Qwen/Qwen3-8B"⟩ := by decide +kernel
  have unblank : (Text.trimChars text.toList).all (!Text.isBlank ·) = true := by
    decide +kernel
  have sheltered : IsSheltered (Text.trimChars text.toList) := by
    intro before blank after split isBlank
    have kept := List.all_eq_true.mp unblank blank (by simp [split])
    simp [isBlank] at kept
  rcases ofText_again text _ named with ⟨_, fixed, _, trimmed, _⟩
  exact ⟨named, sheltered, fixed.mpr (trimmed sheltered)⟩

/-- White space before a query is part of the identifier, until it is read again. -/
theorem blank_at_end_of_identifier :
    ofText "org/m ?rev=main" = .ok ⟨"org/m "⟩ ∧ ofText "org/m " = .ok ⟨"org/m"⟩ ∧
      ofText "/ /" = .ok ⟨" "⟩ ∧ ofText " " = .error .missingRepository := by
  decide +kernel

end Repository

end ServingPreset
