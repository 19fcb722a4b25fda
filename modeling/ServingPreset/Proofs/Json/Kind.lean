import ServingPreset.Proofs.Json.Skip

/-!
# Kinds of written values

The first byte of a value decides its kind, and readers go by it (`Form.ofOctet_opening`). A
word, a numeral or a string is read to its end even where another kind is expected. So such a
value is `unsuited` if it states something and `malformed` if it does not, while an array or object
is `unsuited` whatever it holds (`unexpected_form`).
-/

namespace ServingPreset

namespace Json

variable {Result : Type} {rest : Bytes}

/-- The kinds of values. -/
inductive Kind where
  | null
  | bool
  | numeral
  | string
  | array
  | object
deriving DecidableEq, Repr

/-- The kind of a value that begins with a byte. -/
def Kind.ofOctet (octet : UInt8) : Kind :=
  if octet = byte 'n' then null
  else if octet = byte 't' || octet = byte 'f' then bool
  else if octet = byte '"' then string
  else if octet = byte '[' then array
  else if octet = byte '\x7b' then object
  else numeral

theorem Kind.ofOctet_of_isDigit {octet : UInt8} (digit : isDigit octet = true) :
    ofOctet octet = numeral := by
  have apart {other : UInt8} (noDigit : isDigit other = false) : octet ≠ other := by
    rintro rfl
    rw [digit] at noDigit
    contradiction
  rw [ofOctet, if_neg (apart (by decide)),
    if_neg (by simpa using ⟨apart (by decide), apart (by decide)⟩), if_neg (apart (by decide)),
    if_neg (apart (by decide)), if_neg (apart (by decide))]

namespace Form

/-- The kind of a value. -/
def kind : Form → Kind
  | null => .null
  | bool _ => .bool
  | numeral _ => .numeral
  | string _ => .string
  | array _ _ => .array
  | object _ _ => .object

theorem ofOctet_opening (form : Form) : Kind.ofOctet form.opening = form.kind := by
  cases form with
  | bool holds => cases holds <;> rfl
  | numeral written =>
      rw [opening]
      rcases written.opening_eq with minus | ⟨digit, isDigit⟩
      · rw [minus]
        rfl
      · rw [isDigit, Kind.ofOctet_of_isDigit (Digits.isDigit_digitOctet digit)]
        rfl
  | null => rfl
  | string pieces => rfl
  | array margin elements => rfl
  | object margin members => rfl

theorem opening_ne {form : Form} {octet : UInt8} {kind : Kind} (begins : Kind.ofOctet octet = kind)
    (other : form.kind ≠ kind) : form.opening ≠ octet := by
  rintro rfl
  exact other (form.ofOctet_opening.symm.trans begins)

/-- Whether a value that is read to its end states anything. -/
def IsStated : Form → Prop
  | numeral written => written.number?.isSome
  | string pieces => (Piece.text? pieces).isSome
  | _ => True

instance : (form : Form) → Decidable form.IsStated
  | null | bool _ | array _ _ | object _ _ => isTrue trivial
  | numeral _ | string _ => inferInstanceAs (Decidable (_ = true))

/-- The defect of a value that is not of the expected kind. -/
def defect (form : Form) : Defect :=
  if form.IsStated then .unsuited else .malformed

/-- The text that a value states. -/
def text? : Form → Option String
  | string pieces => Piece.text? pieces
  | _ => none

/-- The unsigned word that a value states. -/
def unsigned? : Form → Option UInt64
  | numeral written => written.unsigned?
  | _ => none

/-- What is read of a value, if it states what is expected. -/
def expect (form : Form) : Option Result → Except Defect Result
  | some result => .ok result
  | none => .error form.defect

theorem expect_eq_ok_iff {form : Form} {value : Option Result} {result : Result} :
    form.expect value = .ok result ↔ value = some result := by
  cases value <;> simp [expect]

/-- The value that a word, a numeral or a string states. -/
def scalar? : Form → Option Value
  | null => some .null
  | bool value => some (.bool value)
  | numeral written => written.number?.map .number
  | string pieces => (Piece.text? pieces).map .string
  | array _ _ | object _ _ => none

end Form

theorem Numeral.opening_isDigit (numeral : Numeral) :
    (numeral.opening = byte '-' || isDigit numeral.opening) = true := by
  rcases numeral.opening_eq with minus | ⟨digit, isDigit⟩
  · simp [minus]
  · simp [isDigit, Digits.isDigit_digitOctet]

theorem readScalar_string (pieces : List Piece) (rest : Bytes) :
    readScalar (Piece.quoted pieces ++ rest) =
      found rest ((Piece.text? pieces).map .string) := by
  have read := readText_pieces pieces rest
  have scanned : readScalar (byte '"' :: (pieces.flatMap Piece.bytes ++ byte '"' :: rest)) =
      (readText (pieces.flatMap Piece.bytes ++ byte '"' :: rest) >>= fun read =>
        .ok (.string read.1, read.2)) := rfl
  rw [Piece.quoted, List.cons_append, List.append_assoc]
  refine scanned.trans ?_
  rw [read]
  cases Piece.text? pieces <;> rfl

theorem readScalar_numeral (numeral : Numeral) (ends : EndsNumeral rest) :
    readScalar (numeral.bytes ++ rest) = found rest (numeral.number?.map .number) := by
  have read := numeral.readNumber_append ends
  have scanned : readScalar (numeral.bytes ++ rest) =
      (readNumber numeral.negative (numeral.unsignedBytes ++ rest) >>= fun read =>
        .ok (.number read.1, read.2)) := by
    rw [Numeral.bytes]
    cases numeral.negative with
    | true => rfl
    | false =>
        have apart {other : UInt8} : isDigit other = false →
            digitOctet numeral.whole.first ≠ other := Digits.digitOctet_ne _
        simp only [Bool.false_eq_true, if_false, List.nil_append, Numeral.unsignedBytes,
          Digits.bytes_eq_cons, List.cons_append]
        rw [readScalar, if_neg (apart (by decide)), if_neg (apart (by decide)),
          if_neg (apart (by decide)), if_neg (apart (by decide)), if_neg (apart (by decide)),
          if_pos (Digits.isDigit_digitOctet _)]
        rfl
  rw [scanned, read]
  cases numeral.number? <;> rfl

/-- A scalar is read as the value that it states. -/
theorem readScalar_form (form : Form) (ends : EndsNumeral rest) :
    readScalar (form.bytes ++ rest) = found rest form.scalar? := by
  cases form with
  | null => rfl
  | bool value => cases value <;> rfl
  | numeral written => exact readScalar_numeral written ends
  | string pieces => exact readScalar_string pieces rest
  | array margin elements => rfl
  | object margin members => rfl

theorem unexpected_form (form : Form) (ends : EndsNumeral rest) :
    unexpected (form.bytes ++ rest) = form.defect := by
  have read := readScalar_form form ends
  rcases form.exists_bytes_eq_cons with ⟨later, begins⟩
  rw [begins, List.cons_append] at read ⊢
  rw [unexpected, read]
  cases form with
  | null | array _ _ | object _ _ => rfl
  | bool holds => cases holds <;> rfl
  | numeral written =>
      rw [if_neg (by simpa using ⟨Form.opening_ne rfl nofun, Form.opening_ne rfl nofun⟩)]
      cases number : written.number? <;>
        simp [found, Form.scalar?, Form.defect, Form.IsStated, number]
  | string pieces =>
      rw [if_neg (by simpa using ⟨Form.opening_ne rfl nofun, Form.opening_ne rfl nofun⟩)]
      cases text : Piece.text? pieces <;>
        simp [found, Form.scalar?, Form.defect, Form.IsStated, text]

end Json

end ServingPreset
