import ServingPreset.Json.Shape
import ServingPreset.Proofs.Json.Kind

/-!
# Reading documents of a known shape

A `Shape` is a reader together with what it makes of a written value, so that a list of values of
a shape is a shape, and a record is one (`Shape.record`). What a shape makes of a value is not
about bytes any more: white space, the fuel of the loops and the rest of the input are dealt with
here, once for each reader.

The entries of an array are met at its start, where no comma stands in front of them, and behind
other entries, where one does. `remaining` stands for both, so that the induction over the
entries is on one list.
-/

namespace ServingPreset

namespace Json

variable {Result Element : Type} {bytes rest : Bytes} {form : Form}

/-! ### Shapes -/

/-- A reader together with what it makes of a written value. -/
structure Shape (Result : Type) where
  read : Reader Result
  decode : Form → Except Defect Result
  /-- The reader takes the value off the input, behind white space. -/
  reads : ∀ {bytes form rest}, skipSpace bytes = form.bytes ++ rest → EndsNumeral rest →
    read bytes = (decode form).map fun result => (result, rest)

namespace Shape

/-! ### Texts and words -/

theorem text_refuses (skipped : skipSpace bytes = form.bytes ++ rest) (ends : EndsNumeral rest)
    (other : form.kind ≠ .string) : Json.text bytes = .error form.defect := by
  have refused := unexpected_form form ends
  have noQuote : form.opening ≠ byte '"' := Form.opening_ne rfl other
  rcases form.exists_bytes_eq_cons with ⟨later, begins⟩
  rw [begins, List.cons_append] at skipped refused
  simp only [Json.text, skipped, if_neg noQuote, refused]

theorem text_reads (skipped : skipSpace bytes = form.bytes ++ rest) (ends : EndsNumeral rest) :
    Json.text bytes = (form.expect form.text?).map fun text => (text, rest) := by
  cases form with
  | string pieces =>
      have read := readText_pieces pieces rest
      rw [Form.bytes, Piece.quoted, List.cons_append, List.append_assoc] at skipped
      simp only [Json.text, skipped, if_true]
      refine read.trans ?_
      rw [Form.text?]
      cases text : Piece.text? pieces <;>
        simp [found, Form.expect, Except.map, Form.defect, Form.IsStated, text]
  | null | bool _ | numeral _ | array _ _ | object _ _ =>
      exact text_refuses skipped ends (by simp [Form.kind])

/-- Texts. -/
def text : Shape String where
  read := Json.text
  decode form := form.expect form.text?
  reads := text_reads

theorem unsigned_refuses (skipped : skipSpace bytes = form.bytes ++ rest)
    (ends : EndsNumeral rest) (other : form.kind ≠ .numeral) :
    Json.unsigned bytes = .error form.defect := by
  have refused := unexpected_form form ends
  have noMinus : form.opening ≠ byte '-' := Form.opening_ne rfl other
  have noDigit : isDigit form.opening = false := by
    by_contra digit
    exact other (form.ofOctet_opening.symm.trans
      (Kind.ofOctet_of_isDigit (Bool.eq_true_of_not_eq_false digit)))
  rcases form.exists_bytes_eq_cons with ⟨later, begins⟩
  rw [begins, List.cons_append] at skipped refused
  simp [Json.unsigned, skipped, refused, noDigit, noMinus]

theorem unsigned_reads (skipped : skipSpace bytes = form.bytes ++ rest)
    (ends : EndsNumeral rest) :
    Json.unsigned bytes = (form.expect form.unsigned?).map fun word => (word, rest) := by
  cases form with
  | numeral written =>
      have scanned := readScalar_numeral written ends
      have opens := written.opening_isDigit
      rcases written.exists_bytes_eq_cons with ⟨later, begins⟩
      rw [Form.bytes] at skipped
      rw [begins, List.cons_append] at skipped scanned
      simp only [Json.unsigned, skipped, opens, if_true, scanned, Form.unsigned?]
      rcases number : written.number? with _ | stated
      · simp [found, Form.expect, Except.map, Form.defect, Form.IsStated, number,
          Numeral.unsigned?_of_number?_eq_none number]
      · simp only [found, Option.map_some, ok_bind, Numeral.unsigned?_number number]
        cases written.unsigned? <;>
          simp [Form.expect, Except.map, Form.defect, Form.IsStated, number, pure, Except.pure]
  | null | bool _ | string _ | array _ _ | object _ _ =>
      exact unsigned_refuses skipped ends (by simp [Form.kind])

/-- Unsigned words. -/
def unsigned : Shape UInt64 where
  read := Json.unsigned
  decode form := form.expect form.unsigned?
  reads := unsigned_reads

/-! ### Null for a default -/

/-- What a shape makes of a value that may be null. -/
def decodeOrNull (default : Result) (shape : Shape Result) : Form → Except Defect Result
  | .null => .ok default
  | form => shape.decode form

theorem orNull_of_kind_ne (default : Result) (read : Reader Result)
    (skipped : skipSpace bytes = form.bytes ++ rest) (other : form.kind ≠ .null) :
    Json.orNull default read bytes = read bytes := by
  have noWord : form.opening ≠ byte 'n' := Form.opening_ne rfl other
  rcases form.exists_bytes_eq_cons with ⟨later, begins⟩
  rw [begins, List.cons_append] at skipped
  rw [Json.orNull, skipped]
  exact if_neg noWord

theorem orNull_reads (default : Result) (shape : Shape Result)
    (skipped : skipSpace bytes = form.bytes ++ rest) (ends : EndsNumeral rest) :
    Json.orNull default shape.read bytes =
      (decodeOrNull default shape form).map fun result => (result, rest) := by
  cases form with
  | null =>
      rw [Json.orNull, skipped]
      rfl
  | bool _ | numeral _ | string _ | array _ _ | object _ _ =>
      have other := orNull_of_kind_ne default shape.read skipped (by simp [Form.kind])
      exact other.trans (shape.reads skipped ends)

/-- Values of a shape, or null for a default. -/
def orNull (default : Result) (shape : Shape Result) : Shape Result where
  read := Json.orNull default shape.read
  decode := decodeOrNull default shape
  reads := orNull_reads default shape

/-- A value is taken off the input behind white space. -/
theorem read_append (shape : Shape Result) (margin : Margin) (form : Form)
    (ends : EndsNumeral rest) :
    shape.read (margin.bytes ++ (form.bytes ++ rest)) =
      (shape.decode form).map fun result => (result, rest) :=
  shape.reads ((skipSpace_margin_append margin _).trans (skipSpace_form_append form rest)) ends

/-- What a shape yields, changed. -/
def map (change : Result → Element) (shape : Shape Result) : Shape Element where
  read bytes := do
    let (result, rest) ← shape.read bytes
    return (change result, rest)
  decode form := (shape.decode form).map change
  reads skipped ends := by
    rw [shape.reads skipped ends]
    cases shape.decode _ <;> rfl

end Shape

/-! ### Entries -/

section Entries

variable {closing : Char} {margin : Margin}

/-- What is left of the entries of an array or object: commas stand between them, and one stands in
front of the next if it is not the first. -/
def remaining (atStart : Bool) (entries : List Bytes) : Bytes :=
  if atStart then separated entries else entries.flatMap (byte ',' :: ·)

@[simp]
theorem remaining_nil (atStart : Bool) : remaining atStart [] = [] := by
  cases atStart <;> rfl

/-- The characters that end an array or object. -/
def IsClosing (closing : Char) : Prop :=
  closing = ']' ∨ closing = '\x7d'

theorem nextEntry_margin (closing : Char) (atStart : Bool) (margin : Margin) (bytes : Bytes) :
    nextEntry closing atStart (margin.bytes ++ bytes) = nextEntry closing atStart bytes := by
  rw [nextEntry, skipSpace_margin_append, ← nextEntry]

theorem nextEntry_closing (closes : IsClosing closing) (atStart : Bool) (rest : Bytes) :
    nextEntry closing atStart (byte closing :: rest) = .ok (.finished rest) := by
  have visible : isSpace (byte closing) = false := by rcases closes with rfl | rfl <;> decide
  rw [nextEntry, skipSpace_cons visible]
  exact if_pos rfl

theorem nextEntry_remaining {entry : Bytes} (closes : IsClosing closing)
    (begins : BeginsEntry entry) (atStart : Bool) (later : List Bytes) (rest : Bytes) :
    ∃ first tail,
      skipSpace (entry ++ (remaining false later ++ rest)) = first :: tail ∧
      nextEntry closing atStart (remaining atStart (entry :: later) ++ rest) =
        .ok (.entry first tail) := by
  rcases begins (remaining false later ++ rest) with ⟨first, tail, skipped, noBracket, noBrace⟩
  have noEnd : first ≠ byte closing := by
    rcases closes with rfl | rfl
    · exact noBracket
    · exact noBrace
  refine ⟨first, tail, skipped, ?_⟩
  cases atStart with
  | true =>
      have together : remaining true (entry :: later) ++ rest =
          entry ++ (remaining false later ++ rest) := List.append_assoc _ _ _
      rw [together, nextEntry, skipped]
      simp [noEnd]
  | false =>
      have together : remaining false (entry :: later) ++ rest =
          byte ',' :: (entry ++ (remaining false later ++ rest)) := by
        simp [remaining]
      have apart : byte ',' ≠ byte closing := by rcases closes with rfl | rfl <;> decide
      rw [together, nextEntry, skipSpace_cons (by decide)]
      simp [apart, skipped, noEnd]

theorem skipSpace_remaining {entry : Bytes} (begins : BeginsEntry entry) (atStart : Bool)
    (later : List Bytes) (rest : Bytes) :
    ∃ first tail, skipSpace (remaining atStart (entry :: later) ++ rest) = first :: tail ∧
      first ≠ byte ']' ∧ first ≠ byte '\x7d' := by
  cases atStart with
  | true =>
      rcases begins (remaining false later ++ rest) with ⟨first, tail, skipped, apart⟩
      refine ⟨first, tail, ?_, apart⟩
      rw [← skipped, ← List.append_assoc]
      rfl
  | false => exact ⟨byte ',', _, skipSpace_cons (by decide), by decide, by decide⟩

theorem endsNumeral_remaining (closes : IsClosing closing) (later : List Bytes) (rest : Bytes) :
    EndsNumeral (remaining false later ++ byte closing :: rest) := by
  refine endsNumeral_later ?_ later
  rcases closes with rfl | rfl <;> exact endsNumeral_cons (by decide)

/-- Between brackets, the next entry stands in front of the rest of the entries. -/
theorem nextEntry_padded {content : Bytes} (closes : IsClosing closing)
    (begins : BeginsEntry content) (stands : ∀ rest, skipSpace (content ++ rest) = content ++ rest)
    (before after : Margin) (atStart : Bool) (later : List Bytes) (rest : Bytes) :
    ∃ first tail,
      first :: tail = content ++ (after.bytes ++ (remaining false later ++ rest)) ∧
      nextEntry closing atStart
          (remaining atStart ((before.bytes ++ content ++ after.bytes) :: later) ++ rest) =
        .ok (.entry first tail) := by
  rcases nextEntry_remaining closes (begins.padded before after.bytes) atStart later rest with
    ⟨first, tail, skipped, next⟩
  refine ⟨first, tail, ?_, next⟩
  rw [← skipped, List.append_assoc, List.append_assoc, skipSpace_margin_append, stands]

theorem length_le_separated (entries : List Bytes) :
    entries.length ≤ (separated entries).length + 1 := by
  have commas (later : List Bytes) :
      later.length ≤ (later.flatMap (byte ',' :: ·)).length := by
    induction later with
    | nil => exact Nat.le_refl _
    | cons entry others ih =>
        simp only [List.flatMap_cons, List.length_append, List.length_cons]
        omega
  cases entries with
  | nil => exact Nat.zero_le _
  | cons first later =>
      have counted := commas later
      simp only [separated, List.length_append, List.length_cons]
      omega

/-- The length of an input is enough fuel for all entries of an array or object in it. -/
theorem length_lt_readingFuel (margin : Margin) (entries : List Bytes) (rest : Bytes) :
    entries.length < readingFuel (margin.bytes ++ (separated entries ++ rest)) := by
  have counted := length_le_separated entries
  simp only [readingFuel, List.length_append]
  omega

end Entries

/-! ### Lists -/

section Lists

theorem readList_margin (read : Reader Element) (fuel : Nat) (atStart : Bool)
    (before : List Element) (margin : Margin) (bytes : Bytes) :
    readList read fuel atStart before (margin.bytes ++ bytes) =
      readList read fuel atStart before bytes := by
  cases fuel with
  | zero => rfl
  | succ fuel => rw [readList, nextEntry_margin, ← readList]

theorem readList_cons (shape : Shape Element) (element : Padded Form) (later : List Bytes)
    (fuel : Nat) (atStart : Bool) (before : List Element) (rest : Bytes) :
    readList shape.read (fuel + 1) atStart before
        (remaining atStart (element.bytes Form.bytes :: later) ++ byte ']' :: rest) =
      (shape.decode element.content >>= fun result =>
        readList shape.read fuel false (result :: before)
          (remaining false later ++ byte ']' :: rest)) := by
  rcases nextEntry_padded (.inl rfl) (beginsEntry_form element.content)
    (skipSpace_form_append element.content) element.before element.after atStart later
    (byte ']' :: rest) with ⟨first, tail, together, next⟩
  have ends := (endsNumeral_remaining (.inl rfl) later rest).margin element.after
  have read := shape.reads (skipSpace_form_append element.content _) ends
  rw [Padded.bytes, readList, next]
  simp only [ok_bind, together, read]
  cases shape.decode element.content with
  | error defect => rfl
  | ok result => exact readList_margin _ _ _ _ _ _

theorem readList_remaining (shape : Shape Element) (elements : List (Padded Form)) {fuel : Nat}
    (enough : elements.length < fuel) (atStart : Bool) (before : List Element) (rest : Bytes) :
    readList shape.read fuel atStart before
        (remaining atStart (elements.map (Padded.bytes Form.bytes)) ++ byte ']' :: rest) =
      (elements.mapM fun element => shape.decode element.content).map fun results =>
        (before.reverse ++ results, rest) := by
  induction elements generalizing fuel atStart before with
  | nil =>
      rcases Nat.exists_eq_add_of_lt enough with ⟨fuel, rfl⟩
      rw [List.map_nil, remaining_nil, List.nil_append, readList, nextEntry_closing (.inl rfl)]
      simp [pure, Except.pure, Except.map]
  | cons element later ih =>
      cases fuel with
      | zero => contradiction
      | succ fuel =>
          rw [List.map_cons, readList_cons, List.mapM_cons]
          cases shape.decode element.content with
          | error defect => rfl
          | ok result =>
              rw [ok_bind, ok_bind, ih (Nat.lt_of_succ_lt_succ enough)]
              cases later.mapM fun element => shape.decode element.content with
              | error defect => rfl
              | ok results => simp [Except.map, pure, Except.pure]

/-- What a list makes of a value. -/
def decodeList (shape : Shape Element) (form : Form) : Except Defect (List Element) :=
  match form with
  | .array _ elements => elements.mapM fun element => shape.decode element.content
  | other => .error other.defect

theorem listOf_refuses (read : Reader Element) (skipped : skipSpace bytes = form.bytes ++ rest)
    (ends : EndsNumeral rest) (other : form.kind ≠ .array) :
    Json.listOf read bytes = .error form.defect := by
  have refused := unexpected_form form ends
  have noArray : form.opening ≠ byte '[' := Form.opening_ne rfl other
  rcases form.exists_bytes_eq_cons with ⟨later, begins⟩
  rw [begins, List.cons_append] at skipped refused
  simp only [Json.listOf, skipped, if_neg noArray, refused]

theorem listOf_reads (shape : Shape Element) (skipped : skipSpace bytes = form.bytes ++ rest)
    (ends : EndsNumeral rest) :
    Json.listOf shape.read bytes =
      (decodeList shape form).map fun results => (results, rest) := by
  cases form with
  | array margin elements =>
      have enough := length_lt_readingFuel margin (elements.map (Padded.bytes Form.bytes))
        (byte ']' :: rest)
      rw [List.length_map] at enough
      rw [Form.bytes, elementTexts_eq_map, bracketed, List.cons_append, List.append_assoc,
        List.append_assoc] at skipped
      simp only [Json.listOf, skipped, if_true]
      refine (readList_margin _ _ _ _ _ _).trans ?_
      exact readList_remaining shape elements enough true [] rest
  | null | bool _ | numeral _ | string _ | object _ _ =>
      exact listOf_refuses shape.read skipped ends (by simp [Form.kind])

/-- Lists of values of a shape. -/
def Shape.listOf (shape : Shape Element) : Shape (List Element) where
  read := Json.listOf shape.read
  decode := decodeList shape
  reads := listOf_reads shape

end Lists

/-! ### Documents -/

/-- A document of a shape is read as what the shape makes of its value. -/
theorem document_read (shape : Shape Result) (written : Padded Form) :
    document shape.read (documentBytes written) = shape.decode written.content := by
  have ends : EndsNumeral written.after.bytes := by
    have nothing := endsNumeral_nil.margin written.after
    rwa [List.append_nil] at nothing
  rw [document, documentBytes, Padded.bytes, List.append_assoc, shape.read_append _ _ ends]
  cases shape.decode written.content with
  | error defect => rfl
  | ok result => simp [Except.map, skipSpace_margin, pure, Except.pure]

end Json

end ServingPreset
