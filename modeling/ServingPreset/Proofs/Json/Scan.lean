import ServingPreset.Proofs.Json.Form
import ServingPreset.Proofs.Number.Word
import ServingPreset.Proofs.Text.ByteOrder

/-!
# Scanning written strings

White space in front of a piece is passed over. A kept string is read as the text that its
pieces state, and is malformed if they state none (`readText_pieces`); a skipped one is passed
over whatever its pieces state (`skipText_pieces`). The scan of a kept string holds the bytes of
the characters before it, which stay valid text piece after piece. Only a leading surrogate has
to be carried from one piece to the next, and there the scan waits for its partner.
-/

namespace ServingPreset

namespace Json

variable {octet : UInt8} {bytes rest : Bytes}

/-- What reading gives for what a piece states, if it states anything. -/
def found {Result : Type} (rest : Bytes) : Option Result → Except Defect (Result × Bytes)
  | some result => .ok (result, rest)
  | none => .error .malformed

/-! ### White space -/

theorem isSpace_octet (space : Space) : isSpace space.octet = true := by
  cases space <;> rfl

@[simp]
theorem skipSpace_margin_append (margin : Margin) (bytes : Bytes) :
    skipSpace (margin.bytes ++ bytes) = skipSpace bytes := by
  induction margin with
  | nil => rfl
  | cons space later ih =>
      rw [Margin.bytes, List.map_cons, List.cons_append, skipSpace,
        List.dropWhile_cons_of_pos (isSpace_octet space)]
      exact ih

theorem skipSpace_cons (visible : isSpace octet = false) :
    skipSpace (octet :: rest) = octet :: rest :=
  List.dropWhile_cons_of_neg (by simp [visible])

theorem skipSpace_margin (margin : Margin) : skipSpace margin.bytes = [] := by
  have passed := skipSpace_margin_append margin []
  rw [List.append_nil] at passed
  exact passed

/-! ### Bytes of characters -/

theorem utf8EncodeChar_of_ascii {char : Char} (ascii : char.toNat ≤ 0x7F) :
    String.utf8EncodeChar char = [byte char] :=
  if_pos ascii

theorem byte_toNat {char : Char} (ascii : char.toNat ≤ 0x7F) : (byte char).toNat = char.toNat :=
  UInt8.toNat_ofNat_of_lt' (Nat.lt_of_le_of_lt ascii (by decide))

/-- Beyond the ASCII range, no byte of a character is one of that range. -/
theorem le_of_mem_utf8EncodeChar {char : Char} (wide : 0x7F < char.toNat)
    (member : octet ∈ String.utf8EncodeChar char) : 0x80 ≤ octet.toNat := by
  have far : ¬char.val.toNat ≤ 127 := Nat.not_le.mpr wide
  simp only [String.utf8EncodeChar, if_neg far] at member
  split_ifs at member <;> simp only [List.mem_cons, List.not_mem_nil, or_false] at member <;>
    rcases member with rfl | rfl | rfl | rfl <;> simp <;> omega

theorem ne_of_mem_plain {char : Char} (unescaped : char ≠ '"' ∧ char ≠ '\\' ∧ 0x20 ≤ char.toNat)
    (member : octet ∈ String.utf8EncodeChar char) :
    octet ≠ byte '"' ∧ octet ≠ byte '\\' ∧ ¬octet < 0x20 := by
  rcases Nat.lt_or_ge 0x7F char.toNat with wide | ascii
  · have high := le_of_mem_utf8EncodeChar wide member
    refine ⟨?_, ?_, ?_⟩
    · rintro rfl
      exact absurd high (by decide)
    · rintro rfl
      exact absurd high (by decide)
    · rw [UInt8.lt_iff_toNat_lt]
      exact Nat.not_lt.mpr (Nat.le_trans (by decide) high)
  · rw [utf8EncodeChar_of_ascii ascii, List.mem_singleton] at member
    subst member
    have same {other : Char} (otherAscii : other.toNat ≤ 0x7F) (equal : byte char = byte other) :
        char = other := by
      have values := congrArg UInt8.toNat equal
      rw [byte_toNat ascii, byte_toNat otherAscii] at values
      exact Char.toNat_inj.mp values
    refine ⟨?_, ?_, ?_⟩
    · exact fun equal => unescaped.1 (same (by decide) equal)
    · exact fun equal => unescaped.2.1 (same (by decide) equal)
    · rw [UInt8.lt_iff_toNat_lt, byte_toNat ascii]
      exact Nat.not_lt.mpr unescaped.2.2

/-! ### Kept strings -/

section Kept

variable {decoded : List UInt8} {pieces : List Piece}

theorem scanText_append (bytes : Bytes)
    (unescaped : ∀ octet ∈ bytes, octet ≠ byte '"' ∧ octet ≠ byte '\\' ∧ ¬octet < 0x20)
    (decoded : List UInt8) (rest : Bytes) :
    scanText .plain decoded (bytes ++ rest) = scanText .plain (bytes.reverse ++ decoded) rest := by
  induction bytes generalizing decoded with
  | nil => rfl
  | cons octet later ih =>
      rw [List.forall_mem_cons] at unescaped
      rcases unescaped with ⟨⟨unquoted, unslashed, visible⟩, others⟩
      rw [List.cons_append, scanText, if_neg unquoted, if_neg unslashed, if_neg visible,
        ih others]
      simp

theorem escapedByte?_letter (escape : Escape) :
    escapedByte? (byte escape.letter) = some (byte escape.char) := by
  cases escape <;> decide

theorem scanText_escape (escape : Escape) (decoded : List UInt8) (rest : Bytes) :
    scanText .plain decoded (byte '\\' :: byte escape.letter :: rest) =
      scanText .plain (byte escape.char :: decoded) rest := by
  have letter : byte escape.letter ≠ byte 'u' := by cases escape <;> decide
  rw [scanText, if_neg (by decide), if_pos rfl, scanText, if_neg letter, escapedByte?_letter]

theorem hexNumber?_digits (code : CodeUnit) :
    hexNumber? [code.fourth.octet, code.third.octet, code.second.octet, code.first.octet] =
      some code.value := by
  have digit (hex : HexDigit) : hexValue? hex.octet = some hex.value :=
    (Option.some_get hex.isHex).symm
  simp [hexNumber?, digit, CodeUnit.value]

theorem scanText_digit {lead : Option Nat} {digits : List UInt8} (early : digits.length < 3) :
    scanText (.hex lead digits) decoded (octet :: rest) =
      scanText (.hex lead (octet :: digits)) decoded rest := by
  rw [scanText.eq_def]
  simp [early]

/-- Behind the digits of a `u` escape, their number decides how the scan goes on. -/
theorem scanText_digits (lead : Option Nat) (code : CodeUnit) (decoded : List UInt8)
    (rest : Bytes) :
    scanText (.hex lead []) decoded (code.bytes ++ rest) =
      match lead with
      | none =>
          if isTrailingSurrogate code.value then .error .malformed
          else if isLeadingSurrogate code.value then scanText (.lead code.value) decoded rest
          else scanText .plain (reversedUtf8 code.value ++ decoded) rest
      | some high =>
          if isTrailingSurrogate code.value then
            scanText .plain (reversedUtf8
              (0x10000 + (high - 0xD800) * 0x400 + (code.value - 0xDC00)) ++ decoded) rest
          else .error .malformed := by
  simp only [CodeUnit.bytes, List.cons_append, List.nil_append]
  rw [scanText_digit (by simp), scanText_digit (by simp), scanText_digit (by simp),
    scanText.eq_def]
  cases lead <;> simp [hexNumber?_digits]

theorem scanText_unit (code : CodeUnit) (decoded : List UInt8) (rest : Bytes) :
    scanText .plain decoded (byte '\\' :: byte 'u' :: (code.bytes ++ rest)) =
      scanText (.hex none []) decoded (code.bytes ++ rest) := by
  rw [scanText, if_neg (by decide), if_pos rfl, scanText, if_pos rfl]

theorem scanText_lead_unit (high : Nat) (code : CodeUnit) (decoded : List UInt8) (rest : Bytes) :
    scanText (.lead high) decoded (byte '\\' :: byte 'u' :: (code.bytes ++ rest)) =
      scanText (.hex (some high) []) decoded (code.bytes ++ rest) := by
  rw [scanText, if_pos rfl, scanText, if_pos rfl]

theorem flatMap_unit_append (code : CodeUnit) (later : List Piece) (rest : Bytes) :
    (Piece.unit code :: later).flatMap Piece.bytes ++ rest =
      byte '\\' :: byte 'u' :: (code.bytes ++ (later.flatMap Piece.bytes ++ rest)) := by
  simp [Piece.bytes]

/-- The bytes of characters, the last one first. -/
def reversedBytes (chars : List Char) : List UInt8 :=
  (chars.flatMap String.utf8EncodeChar).reverse

theorem reversedBytes_concat (chars : List Char) (char : Char) :
    reversedBytes (chars ++ [char]) =
      (String.utf8EncodeChar char).reverse ++ reversedBytes chars := by
  simp [reversedBytes]

theorem fromUTF8?_bytes (chars : List Char) :
    String.fromUTF8? ⟨(reversedBytes chars).reverse.toArray⟩ = some (String.ofList chars) := by
  have bytes : (⟨(reversedBytes chars).reverse.toArray⟩ : ByteArray) =
      (String.ofList chars).toByteArray := by
    rw [reversedBytes, List.reverse_reverse, String.toByteArray_ofList, List.utf8Encode]
    exact ByteArray.ext List.data_toByteArray.symm
  rw [bytes, String.fromUTF8?, dif_pos (String.ofList chars).isValidUTF8]
  rfl

theorem scanText_quote (chars : List Char) (rest : Bytes) :
    scanText .plain (reversedBytes chars) (byte '"' :: rest) =
      .ok (String.ofList chars, rest) := by
  rw [scanText, if_pos rfl, fromUTF8?_bytes]

/-- No piece but a `u` escape, and no end either, follows a leading surrogate. -/
theorem scanText_lead (high : Nat) (pieces : List Piece)
    (alone : ∀ code later, pieces ≠ .unit code :: later) (decoded : List UInt8) (rest : Bytes) :
    scanText (.lead high) decoded (pieces.flatMap Piece.bytes ++ byte '"' :: rest) =
      .error .malformed := by
  cases pieces with
  | nil => rw [List.flatMap_nil, List.nil_append, scanText, if_neg (by decide)]
  | cons piece later =>
      rw [List.flatMap_cons]
      cases piece with
      | unit code => exact absurd rfl (alone code later)
      | escaped escape =>
          have letter : byte escape.letter ≠ byte 'u' := by cases escape <;> decide
          simp only [Piece.bytes, List.cons_append]
          rw [scanText, if_pos rfl, scanText, if_neg letter]
      | plain char unescaped =>
          rcases List.exists_cons_of_ne_nil (Text.utf8EncodeChar_ne_nil char) with
            ⟨first, others, encoded⟩
          have member : first ∈ String.utf8EncodeChar char := encoded ▸ List.mem_cons_self
          simp only [Piece.bytes, encoded, List.cons_append]
          rw [scanText, if_neg (ne_of_mem_plain unescaped member).2.1]

/-- What a scan gives that has read some characters and meets those of the last pieces. -/
def scanned (before : List Char) (rest : Bytes) :
    Option (List Char) → Except Defect (String × Bytes)
  | some chars => .ok (String.ofList (before ++ chars), rest)
  | none => .error .malformed

theorem scanned_concat (before : List Char) (char : Char) (rest : Bytes)
    (chars : Option (List Char)) :
    scanned (before ++ [char]) rest chars = scanned before rest (chars.map (char :: ·)) := by
  cases chars with
  | none => rfl
  | some chars => simp [scanned]

theorem scanText_pieces (pieces : List Piece) (before : List Char) (rest : Bytes) :
    scanText .plain (reversedBytes before) (pieces.flatMap Piece.bytes ++ byte '"' :: rest) =
      scanned before rest (Piece.chars? pieces) := by
  induction pieces using Piece.chars?.induct generalizing before with
  | case1 => simp [scanText_quote, Piece.chars?, scanned]
  | case2 char unescaped later ih =>
      rw [List.flatMap_cons, List.append_assoc, Piece.bytes,
        scanText_append _ fun _ => ne_of_mem_plain unescaped, ← reversedBytes_concat, ih,
        scanned_concat, Piece.chars?]
  | case3 escape later ih =>
      have encoded : String.utf8EncodeChar escape.char = [byte escape.char] :=
        utf8EncodeChar_of_ascii (by cases escape <;> decide)
      have following := ih (before ++ [escape.char])
      rw [reversedBytes_concat, encoded, scanned_concat] at following
      rw [List.flatMap_cons, List.append_assoc, Piece.bytes, Piece.chars?]
      exact (scanText_escape escape _ _).trans following
  | case4 first later trailing =>
      rw [flatMap_unit_append, scanText_unit, scanText_digits, Piece.chars?.eq_def]
      simp [trailing, scanned]
  | case5 first trailing leading second others low ih =>
      rw [flatMap_unit_append, scanText_unit, scanText_digits, Piece.chars?.eq_def]
      simp only [trailing, leading, low, if_true, Bool.false_eq_true, if_false]
      rw [flatMap_unit_append, scanText_lead_unit, scanText_digits]
      simp only [low, if_true]
      rw [reversedUtf8, ← Piece.ofSurrogates, ← reversedBytes_concat, ih, scanned_concat]
  | case6 first trailing leading second others high =>
      rw [flatMap_unit_append, scanText_unit, scanText_digits, Piece.chars?.eq_def]
      simp only [trailing, leading, high, if_true, Bool.false_eq_true, if_false]
      rw [flatMap_unit_append, scanText_lead_unit, scanText_digits]
      simp [high, scanned]
  | case7 first later trailing leading alone =>
      rw [flatMap_unit_append, scanText_unit, scanText_digits, Piece.chars?.eq_def]
      simp only [trailing, leading, if_true, Bool.false_eq_true, if_false]
      rw [scanText_lead _ _ alone]
      cases later with
      | nil => rfl
      | cons piece others => cases piece <;> simp_all [scanned]
  | case8 first later trailing leading ih =>
      rw [flatMap_unit_append, scanText_unit, scanText_digits, Piece.chars?.eq_def]
      simp only [trailing, leading, Bool.false_eq_true, if_false]
      rw [reversedUtf8, ← reversedBytes_concat, ih, scanned_concat]

/-- A kept string is read as the text that its pieces state. -/
theorem readText_pieces (pieces : List Piece) (rest : Bytes) :
    readText (pieces.flatMap Piece.bytes ++ byte '"' :: rest) =
      found rest (Piece.text? pieces) := by
  have read := scanText_pieces pieces [] rest
  rw [readText, Piece.text?]
  refine read.trans ?_
  cases Piece.chars? pieces <;> rfl

end Kept

/-! ### Skipped strings -/

theorem scanSkipped_append (bytes : Bytes)
    (unescaped : ∀ octet ∈ bytes, octet ≠ byte '"' ∧ octet ≠ byte '\\' ∧ ¬octet < 0x20)
    (rest : Bytes) : scanSkipped .plain (bytes ++ rest) = scanSkipped .plain rest := by
  induction bytes with
  | nil => rfl
  | cons octet later ih =>
      rw [List.forall_mem_cons] at unescaped
      rcases unescaped with ⟨⟨unquoted, unslashed, visible⟩, others⟩
      rw [List.cons_append, scanSkipped, if_neg unquoted, if_neg unslashed, if_neg visible,
        ih others]

theorem scanSkipped_piece (piece : Piece) (rest : Bytes) :
    scanSkipped .plain (piece.bytes ++ rest) = scanSkipped .plain rest := by
  cases piece with
  | plain char unescaped => exact scanSkipped_append _ (fun _ => ne_of_mem_plain unescaped) rest
  | escaped escape =>
      have letter : byte escape.letter ≠ byte 'u' := by cases escape <;> decide
      simp only [Piece.bytes, List.cons_append, List.nil_append]
      rw [scanSkipped, if_neg (by decide), if_pos rfl, scanSkipped, if_neg letter,
        escapedByte?_letter, Option.isSome_some, if_pos rfl]
  | unit code =>
      simp only [Piece.bytes, CodeUnit.bytes, List.cons_append, List.nil_append]
      rw [scanSkipped, if_neg (by decide), if_pos rfl, scanSkipped, if_pos rfl, scanSkipped,
        if_pos (by simp), scanSkipped, if_pos (by simp), scanSkipped, if_pos (by simp),
        scanSkipped, if_neg (by simp), hexNumber?_digits, Option.isSome_some, if_pos rfl]

/-- A skipped string is passed over, whether its pieces state a text or not. -/
theorem skipText_pieces (pieces : List Piece) (rest : Bytes) :
    skipText (pieces.flatMap Piece.bytes ++ byte '"' :: rest) = .ok rest := by
  rw [skipText]
  induction pieces with
  | nil => rw [List.flatMap_nil, List.nil_append, scanSkipped, if_pos rfl]
  | cons piece later ih => rw [List.flatMap_cons, List.append_assoc, scanSkipped_piece, ih]

end Json

end ServingPreset
