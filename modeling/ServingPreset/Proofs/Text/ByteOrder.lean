import Mathlib.Data.List.Lex
import Mathlib.Data.String.Basic

/-!
# The order of bytes

Texts are ordered by their code points. Their bytes in UTF-8 are ordered the same way
(`Text.bytes_lt_of_lt`): of two characters, the one with the lower code has the lower bytes,
whatever follows them, since neither encoding is the beginning of the other.
-/

namespace ServingPreset

namespace Text

/-- The bytes of a text in UTF-8. -/
def bytes (text : String) : List UInt8 :=
  text.toUTF8.data.toList

theorem bytes_eq_flatMap (text : String) :
    bytes text = text.toList.flatMap String.utf8EncodeChar := by
  rw [bytes, String.toUTF8_eq_toByteArray]
  conv => lhs; rw [← String.ofList_toList (s := text)]
  rw [String.toByteArray_ofList, List.utf8Encode, List.data_toByteArray]

theorem byte_cons_lt_byte_cons_iff {first second : Nat} {rest others : List UInt8}
    (firstByte : first < 256) (secondByte : second < 256) :
    UInt8.ofNat first :: rest < UInt8.ofNat second :: others ↔
      first < second ∨ first = second ∧ rest < others := by
  rw [List.cons_lt_cons_iff, UInt8.lt_iff_toNat_lt, ← UInt8.toNat_inj,
    UInt8.toNat_ofNat_of_lt' firstByte, UInt8.toNat_ofNat_of_lt' secondByte]

/-- The bytes of two characters differ before either of them ends. -/
theorem utf8EncodeChar_append_lt {low high : Char} (below : low < high)
    (rest others : List UInt8) :
    String.utf8EncodeChar low ++ rest < String.utf8EncodeChar high ++ others := by
  have order : low.val.toNat < high.val.toNat := below
  have limit : high.val.toNat < 0x110000 := by
    have valid := high.valid
    simp only [UInt32.isValidChar, Nat.isValidChar] at valid
    omega
  simp only [String.utf8EncodeChar]
  generalize low.val.toNat = first at *
  generalize high.val.toNat = second at *
  -- The digits of a code to base 64 are had by dividing again and again.
  have digits (code : Nat) :
      code / 4096 = code / 64 / 64 ∧ code / 262144 = code / 64 / 64 / 64 := by omega
  simp only [digits]
  split_ifs <;>
    simp (disch := omega) only [List.cons_append, List.nil_append,
      byte_cons_lt_byte_cons_iff] <;>
    omega

theorem utf8EncodeChar_ne_nil (char : Char) : String.utf8EncodeChar char ≠ [] := by
  simp only [String.utf8EncodeChar]
  split_ifs <;> exact List.cons_ne_nil _ _

theorem flatMap_utf8EncodeChar_lt {left right : List Char} (below : left < right) :
    left.flatMap String.utf8EncodeChar < right.flatMap String.utf8EncodeChar := by
  induction left generalizing right with
  | nil =>
      cases right with
      | nil => exact absurd below (List.lt_irrefl _)
      | cons char rest =>
          rcases List.exists_cons_of_ne_nil (utf8EncodeChar_ne_nil char) with ⟨byte, bytes, encoded⟩
          rw [List.flatMap_cons, encoded]
          exact List.nil_lt_cons _ _
  | cons char rest ih =>
      cases right with
      | nil => exact absurd below (List.not_lt_nil _)
      | cons other others =>
          rw [List.flatMap_cons, List.flatMap_cons]
          rcases List.cons_lt_cons_iff.mp below with lower | ⟨rfl, behind⟩
          · exact utf8EncodeChar_append_lt lower _ _
          · exact List.append_left_lt (ih behind)

theorem bytes_lt_of_lt {left right : String} (below : left < right) :
    bytes left < bytes right := by
  rw [bytes_eq_flatMap, bytes_eq_flatMap]
  exact flatMap_utf8EncodeChar_lt (String.lt_iff_toList_lt.mp below)

end Text

end ServingPreset
