import Mathlib.Data.List.DropRight
import ServingPreset.Json.Skip
import ServingPreset.Proofs.Json.Numeral
import ServingPreset.Proofs.Json.Scan

/-!
# Skipping written values

A value that nobody asks for is passed over whatever it is: however deep it nests, however large
its numerals are, and whether or not its strings state a text (`skipValue_append`). A skip goes
through a value in steps, and its fuel is what the length of the input allows. So the invariant
`Passes` bounds the steps of a value by twice its length, and its proof for an array or object
counts the steps of the entries (`exists_passes_later`) and those of the brackets and commas.
-/

namespace ServingPreset

namespace Json

variable {octet : UInt8} {bytes rest : Bytes}

/-! ### Values inside values -/

/-- What holds of a form whenever it holds of the forms in it holds of all forms. -/
@[elab_as_elim]
theorem Form.inside_induction {motive : Form → Prop}
    (null : motive .null)
    (bool : ∀ value, motive (.bool value))
    (numeral : ∀ numeral, motive (.numeral numeral))
    (string : ∀ pieces, motive (.string pieces))
    (array : ∀ margin elements, (∀ element ∈ elements, motive element.content) →
      motive (.array margin elements))
    (object : ∀ margin members, (∀ member ∈ members, motive member.content.value) →
      motive (.object margin members)) :
    ∀ form, motive form
  | .null => null
  | .bool value => bool value
  | .numeral written => numeral written
  | .string pieces => string pieces
  | .array margin elements => array margin elements fun element present =>
      have _smaller := List.sizeOf_lt_of_mem present
      inside_induction null bool numeral string array object element.content
  | .object margin members => object margin members fun member present =>
      have _smaller := List.sizeOf_lt_of_mem present
      inside_induction null bool numeral string array object member.content.value
termination_by form => sizeOf form
decreasing_by
  · rcases element with ⟨before, content, after⟩
    simp only [Padded.mk.sizeOf_spec, Form.array.sizeOf_spec] at *
    omega
  · rcases member with ⟨before, ⟨name, afterName, beforeValue, value⟩, after⟩
    simp only [Padded.mk.sizeOf_spec, Member.mk.sizeOf_spec, Form.object.sizeOf_spec] at *
    omega

/-! ### First bytes -/

theorem skipSpace_skipSpace (bytes : Bytes) : skipSpace (skipSpace bytes) = skipSpace bytes :=
  List.dropWhile_idempotent _ _

theorem Numeral.opening_eq (numeral : Numeral) :
    numeral.opening = byte '-' ∨ ∃ digit, numeral.opening = digitOctet digit := by
  rw [Numeral.opening]
  cases numeral.negative with
  | true => exact .inl rfl
  | false => exact .inr ⟨_, rfl⟩

theorem digitOctet_apart (digit : Fin 10) :
    isSpace (digitOctet digit) = false ∧ digitOctet digit ≠ byte ']' ∧
      digitOctet digit ≠ byte '\x7d' := by
  revert digit
  decide

/-- No value begins with white space or with the end of an array or object. -/
theorem Form.opening_apart (form : Form) :
    isSpace form.opening = false ∧ form.opening ≠ byte ']' ∧ form.opening ≠ byte '\x7d' := by
  cases form with
  | null => decide
  | bool holds => cases holds <;> decide
  | numeral written =>
      rw [Form.opening]
      rcases written.opening_eq with minus | ⟨digit, isDigit⟩
      · rw [minus]
        decide
      · rw [isDigit]
        exact digitOctet_apart digit
  | string pieces => rw [Form.opening]; decide
  | array margin elements => rw [Form.opening]; decide
  | object margin members => rw [Form.opening]; decide

theorem skipSpace_form_append (form : Form) (rest : Bytes) :
    skipSpace (form.bytes ++ rest) = form.bytes ++ rest := by
  rcases form.exists_bytes_eq_cons with ⟨later, written⟩
  rw [written]
  exact skipSpace_cons form.opening_apart.1

/-- Behind white space, an entry of an array or object stands, and not its end. -/
def BeginsEntry (bytes : Bytes) : Prop :=
  ∀ rest, ∃ first later, skipSpace (bytes ++ rest) = first :: later ∧
    first ≠ byte ']' ∧ first ≠ byte '\x7d'

theorem BeginsEntry.padded (begins : BeginsEntry bytes) (before : Margin) (after : Bytes) :
    BeginsEntry (before.bytes ++ bytes ++ after) := by
  intro rest
  rw [List.append_assoc, List.append_assoc, skipSpace_margin_append]
  exact begins (after ++ rest)

theorem beginsEntry_form (form : Form) : BeginsEntry form.bytes := by
  intro rest
  rcases form.exists_bytes_eq_cons with ⟨later, written⟩
  exact ⟨form.opening, later ++ rest, by rw [skipSpace_form_append, written, List.cons_append],
    form.opening_apart.2⟩

theorem beginsEntry_member (member : Member Form) : BeginsEntry (member.bytes Form.bytes) :=
  fun _ => ⟨byte '"', _, skipSpace_cons (by decide), by decide, by decide⟩

/-! ### What ends a numeral -/

theorem endsNumeral_nil : EndsNumeral [] := by
  intro octet head
  cases head

theorem endsNumeral_cons (ends : isDigit octet = false ∧ octet ≠ byte '.' ∧ octet ≠ byte 'e' ∧
    octet ≠ byte 'E') : EndsNumeral (octet :: rest) := by
  intro other head
  cases head
  exact ends

theorem EndsNumeral.margin (ends : EndsNumeral rest) (margin : Margin) :
    EndsNumeral (margin.bytes ++ rest) := by
  cases margin with
  | nil => exact ends
  | cons space later => exact endsNumeral_cons (by cases space <;> decide)

/-- Behind an entry comes a comma and the next one, or the closing bracket. -/
theorem endsNumeral_later {closing : UInt8} (ends : EndsNumeral (closing :: rest))
    (later : List Bytes) :
    EndsNumeral (later.flatMap (byte ',' :: ·) ++ closing :: rest) := by
  cases later with
  | nil => exact ends
  | cons entry others => exact endsNumeral_cons (by decide)

/-! ### Steps of a skip -/

section Steps

variable {fuel : Nat} {brackets outer : List Bracket} {bracket : Bracket}
  {expected : Expectation}

theorem skipOpen_skipSpace (fuel : Nat) (brackets : List Bracket) (expected : Expectation)
    (bytes : Bytes) :
    skipOpen fuel brackets expected (skipSpace bytes) = skipOpen fuel brackets expected bytes := by
  cases fuel with
  | zero => rfl
  | succ fuel => simp only [skipOpen.eq_def (fuel + 1), skipSpace_skipSpace]

@[simp]
theorem skipOpen_margin_append (fuel : Nat) (brackets : List Bracket) (expected : Expectation)
    (margin : Margin) (bytes : Bytes) :
    skipOpen fuel brackets expected (margin.bytes ++ bytes) =
      skipOpen fuel brackets expected bytes := by
  rw [← skipOpen_skipSpace, skipSpace_margin_append, skipOpen_skipSpace]

/-- What a skip does behind a value that stands in the given brackets. -/
def resume (fuel : Nat) (brackets : List Bracket) (rest : Bytes) : Except Defect Bytes :=
  if brackets.isEmpty then .ok rest else skipOpen fuel brackets .separator rest

theorem isSpace_closing (bracket : Bracket) : isSpace bracket.closing = false := by
  cases bracket <;> rfl

theorem endsNumeral_closing (bracket : Bracket) (rest : Bytes) :
    EndsNumeral (bracket.closing :: rest) := by
  cases bracket <;> exact endsNumeral_cons (by decide)

theorem skipOpen_opened_closing :
    skipOpen (fuel + 1) (bracket :: outer) .opened (bracket.closing :: rest) =
      resume fuel outer rest := by
  simp [skipOpen, skipSpace_cons (isSpace_closing bracket), resume]

theorem skipOpen_separator_closing :
    skipOpen (fuel + 1) (bracket :: outer) .separator (bracket.closing :: rest) =
      resume fuel outer rest := by
  simp [skipOpen, skipSpace_cons (isSpace_closing bracket), resume]

theorem skipOpen_opened_entry (begins : BeginsEntry bytes) :
    skipOpen (fuel + 1) (bracket :: outer) .opened (bytes ++ rest) =
      skipOpen fuel (bracket :: outer) bracket.entry (bytes ++ rest) := by
  rcases begins rest with ⟨first, later, skipped, noBracket, noBrace⟩
  have open_ : first ≠ bracket.closing := by
    cases bracket with
    | array => exact noBracket
    | object => exact noBrace
  rw [← skipOpen_skipSpace fuel]
  simp [skipOpen, skipped, open_]

theorem skipOpen_separator_comma :
    skipOpen (fuel + 1) (bracket :: outer) .separator (byte ',' :: rest) =
      skipOpen fuel (bracket :: outer) bracket.entry rest := by
  have apart : byte ',' ≠ bracket.closing := by cases bracket <;> decide
  simp [skipOpen, skipSpace_cons (by decide : isSpace (byte ',') = false), apart]

theorem skipOpen_name :
    skipOpen (fuel + 1) brackets .name (byte '"' :: bytes) =
      (skipText bytes >>= fun rest => expectColon rest >>= skipOpen fuel brackets .value) := by
  simp only [skipOpen, skipSpace_cons (by decide : isSpace (byte '"') = false), if_true]

/-- A skip that meets the bytes passes over them, with at most two steps for each byte. -/
def Passes (expected : Expectation) (bytes : Bytes) : Prop :=
  ∃ steps < 2 * bytes.length, ∀ fuel brackets rest, EndsNumeral rest →
    skipOpen (fuel + steps + 1) brackets expected (bytes ++ rest) = resume fuel brackets rest

/-- A skip inside a bracket passes over the bytes of an entry. -/
structure PassesEntry (bracket : Bracket) (bytes : Bytes) : Prop where
  begins : BeginsEntry bytes
  passes : ∃ steps < 2 * bytes.length, ∀ fuel outer rest, EndsNumeral rest →
    skipOpen (fuel + 1 + steps + 1) (bracket :: outer) bracket.entry (bytes ++ rest) =
      skipOpen (fuel + 1) (bracket :: outer) .separator rest

theorem passesEntry_padded (bracket : Bracket) (begins : BeginsEntry bytes)
    (passes : Passes bracket.entry bytes) (before after : Margin) :
    PassesEntry bracket (before.bytes ++ bytes ++ after.bytes) := by
  rcases passes with ⟨steps, bound, passes⟩
  refine ⟨begins.padded before _, steps, ?_, fun fuel outer rest ends => ?_⟩
  · simp only [List.length_append]
    omega
  · rw [List.append_assoc, List.append_assoc, skipOpen_margin_append,
      passes _ _ _ (ends.margin after), resume, if_neg (by simp), skipOpen_margin_append]

theorem exists_passes_later (entries : List Bytes)
    (passes : ∀ entry ∈ entries, PassesEntry bracket entry) :
    ∃ steps ≤ 2 * (entries.flatMap (byte ',' :: ·)).length, ∀ fuel outer rest,
      skipOpen (fuel + steps + 1) (bracket :: outer) .separator
        (entries.flatMap (byte ',' :: ·) ++ bracket.closing :: rest) =
        resume fuel outer rest := by
  induction entries with
  | nil => exact ⟨0, Nat.zero_le _, fun _ _ _ => skipOpen_separator_closing⟩
  | cons entry later ih =>
      rw [List.forall_mem_cons] at passes
      rcases passes with ⟨⟨_, entrySteps, entryBound, entryPasses⟩, laterPass⟩
      rcases ih laterPass with ⟨laterSteps, laterBound, laterPasses⟩
      refine ⟨laterSteps + entrySteps + 2, ?_, fun fuel outer rest => ?_⟩
      · simp only [List.flatMap_cons, List.length_append, List.length_cons]
        omega
      · have ends := endsNumeral_later (endsNumeral_closing bracket rest) later
        have sum : fuel + (laterSteps + entrySteps + 2) + 1 =
            fuel + laterSteps + 1 + entrySteps + 1 + 1 := by omega
        rw [List.flatMap_cons, List.append_assoc, List.cons_append, sum, skipOpen_separator_comma,
          entryPasses _ _ _ ends, laterPasses]

/-- Brackets are passed over whose entries are. -/
theorem passes_bracketed (bracket : Bracket) {opening closing : Char}
    (opens : ∀ fuel brackets rest,
      skipOpen (fuel + 1) brackets .value (byte opening :: rest) =
        skipOpen fuel (bracket :: brackets) .opened rest)
    (closes : bracket.closing = byte closing) (margin : Margin) (entries : List Bytes)
    (passes : ∀ entry ∈ entries, PassesEntry bracket entry) :
    Passes .value (bracketed opening closing margin entries) := by
  cases entries with
  | nil =>
      refine ⟨1, ?_, fun fuel brackets rest _ => ?_⟩
      · simp [bracketed]
        omega
      · simp only [bracketed, separated, List.append_nil, List.cons_append, List.append_assoc,
          List.nil_append]
        rw [opens, skipOpen_margin_append, ← closes, skipOpen_opened_closing]
  | cons entry later =>
      rw [List.forall_mem_cons] at passes
      rcases passes with ⟨⟨begins, entrySteps, entryBound, entryPasses⟩, laterPass⟩
      rcases exists_passes_later later laterPass with ⟨laterSteps, laterBound, laterPasses⟩
      refine ⟨laterSteps + entrySteps + 3, ?_, fun fuel brackets rest _ => ?_⟩
      · simp only [bracketed, separated, List.length_cons, List.length_append, List.length_nil]
        omega
      · have ends := endsNumeral_later (endsNumeral_closing bracket rest) later
        have sum : fuel + (laterSteps + entrySteps + 3) + 1 =
            fuel + laterSteps + 1 + entrySteps + 1 + 1 + 1 := by omega
        simp only [bracketed, separated, List.cons_append, List.append_assoc, List.nil_append]
        rw [sum, opens, skipOpen_margin_append, ← closes, skipOpen_opened_entry begins,
          entryPasses _ _ _ ends, laterPasses]

end Steps

/-! ### Passing over forms -/

/-- A scalar is passed over in one step. -/
theorem passes_scalar {first : UInt8} {later : Bytes} (visible : isSpace first = false)
    (noArray : first ≠ byte '[') (noObject : first ≠ byte '\x7b')
    (skips : ∀ rest, EndsNumeral rest → skipScalar (first :: later ++ rest) = .ok rest) :
    Passes .value (first :: later) := by
  refine ⟨0, by simp, fun fuel brackets rest ends => ?_⟩
  have skipped := skips rest ends
  rw [List.cons_append] at skipped ⊢
  simp only [skipOpen, skipSpace_cons visible, if_neg noArray, if_neg noObject, skipped]
  rfl

theorem skipScalar_digit (digit : Fin 10) (rest : Bytes) :
    skipScalar (digitOctet digit :: rest) = skipNumber (digitOctet digit :: rest) := by
  have apart {other : UInt8} : isDigit other = false → digitOctet digit ≠ other :=
    Digits.digitOctet_ne digit
  rw [skipScalar, if_neg (apart (by decide)), if_neg (apart (by decide)),
    if_neg (apart (by decide)), if_neg (apart (by decide)), if_neg (apart (by decide)),
    if_pos (Digits.isDigit_digitOctet digit)]

theorem passes_numeral (numeral : Numeral) : Passes .value numeral.bytes := by
  have skips {rest : Bytes} (ends : EndsNumeral rest) := numeral.skipNumber_append ends
  rw [Numeral.bytes]
  cases numeral.negative with
  | true => exact passes_scalar (by decide) (by decide) (by decide) fun rest ends => skips ends
  | false =>
      rw [Numeral.unsignedBytes, Digits.bytes_eq_cons] at skips ⊢
      refine passes_scalar (digitOctet_apart _).1 (Digits.digitOctet_ne _ (by decide))
        (Digits.digitOctet_ne _ (by decide)) fun rest ends => ?_
      rw [← skips ends]
      exact skipScalar_digit _ _

theorem passes_string (pieces : List Piece) : Passes .value (Piece.quoted pieces) := by
  refine passes_scalar (by decide) (by decide) (by decide) fun rest _ => ?_
  rw [List.cons_append, List.append_assoc]
  exact skipText_pieces pieces rest

theorem expectColon_append (margin : Margin) (rest : Bytes) :
    expectColon (margin.bytes ++ byte ':' :: rest) = .ok rest := by
  rw [expectColon, skipSpace_margin_append, skipSpace_cons (by decide)]
  exact if_pos rfl

theorem passes_member {member : Member Form} (passes : Passes .value member.value.bytes) :
    Passes .name (member.bytes Form.bytes) := by
  rcases passes with ⟨steps, bound, passes⟩
  refine ⟨steps + 1, ?_, fun fuel brackets rest ends => ?_⟩
  · simp only [Member.bytes, List.length_append, List.length_cons]
    omega
  · have skipped := skipText_pieces member.name (member.afterName.bytes ++ byte ':' ::
      (member.beforeValue.bytes ++ (member.value.bytes ++ rest)))
    rw [Member.bytes_append, ← Nat.add_assoc, skipOpen_name, skipped, ok_bind, expectColon_append,
      ok_bind, skipOpen_margin_append, passes _ _ _ ends]

theorem passes_form (form : Form) : Passes .value form.bytes := by
  induction form using Form.inside_induction with
  | null => exact passes_scalar (by decide) (by decide) (by decide) fun _ _ => rfl
  | bool value =>
      cases value <;>
        exact passes_scalar (by decide) (by decide) (by decide) fun _ _ => rfl
  | numeral numeral => exact passes_numeral numeral
  | string pieces => exact passes_string pieces
  | array margin elements ih =>
      rw [Form.bytes, elementTexts_eq_map]
      refine passes_bracketed .array (fun _ _ _ => rfl) rfl margin _ fun entry written => ?_
      rcases List.mem_map.mp written with ⟨element, present, rfl⟩
      exact passesEntry_padded .array (beginsEntry_form _) (ih element present) _ _
  | object margin members ih =>
      rw [Form.bytes, memberTexts_eq_map]
      refine passes_bracketed .object (fun _ _ _ => rfl) rfl margin _ fun entry written => ?_
      rcases List.mem_map.mp written with ⟨member, present, rfl⟩
      exact passesEntry_padded .object (beginsEntry_member _)
        (passes_member (ih member present)) _ _

/-- A value is passed over, whatever it is. -/
theorem skipValue_append (margin : Margin) (form : Form) (ends : EndsNumeral rest) :
    skipValue (margin.bytes ++ (form.bytes ++ rest)) = .ok rest := by
  rcases passes_form form with ⟨steps, bound, passes⟩
  have fuel : readingFuel (margin.bytes ++ (form.bytes ++ rest)) =
      2 * (margin.bytes ++ (form.bytes ++ rest)).length + 1 - steps + steps + 1 := by
    simp only [readingFuel, List.length_append]
    omega
  rw [skipValue, fuel, skipOpen_margin_append, passes _ _ _ ends]
  rfl

end Json

end ServingPreset
