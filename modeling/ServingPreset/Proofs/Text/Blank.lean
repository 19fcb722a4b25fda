import ServingPreset.Proofs.Text.Strip
import ServingPreset.Text.Blank

/-!
# Trimmed text

Trimming strips white space from both ends. It leaves nothing of a blank text, and everything
of a text that has no white space at either end.
-/

namespace ServingPreset

namespace Text

variable {chars : List Char} {text : String}

theorem trimChars_eq_strip (chars : List Char) : trimChars chars = strip isBlank chars := rfl

theorem trimChars_of_blank (all : ∀ char ∈ chars, isBlank char = true) : trimChars chars = [] :=
  strip_eq_nil_iff.mpr all

theorem trimChars_toList_of_blank (none : blank text = true) : trimChars text.toList = [] :=
  trimChars_of_blank (List.all_eq_true.mp none)

/-- Text without white space at its ends is trimmed already. -/
theorem trimChars_eq_self (first : ∀ char ∈ chars.head?, isBlank char = false)
    (last : ∀ char ∈ chars.getLast?, isBlank char = false) : trimChars chars = chars :=
  strip_eq_self ⟨first, last⟩

theorem trim_eq_iff : trim text = text ↔ trimChars text.toList = text.toList := by
  rw [trim, ← String.toList_inj, String.toList_ofList]

theorem trim_eq_self_iff : trim text = text ↔ IsStripped isBlank text.toList := by
  rw [trim_eq_iff, trimChars_eq_strip, strip_eq_self_iff]

theorem notMem_of_blank {char : Char} (all : blank text = true) (kept : isBlank char = false) :
    char ∉ text.toList := by
  intro member
  rw [List.all_eq_true.mp all char member] at kept
  contradiction

/-- A trimmed text that is not empty is not blank. -/
theorem not_blank_of_trim (nonempty : text ≠ "") (trimmed : trim text = text) :
    blank text = false := by
  rw [Bool.eq_false_iff]
  intro all
  apply nonempty
  rw [← trimmed, trim, trimChars_toList_of_blank all, String.ofList_nil]

end Text

end ServingPreset
