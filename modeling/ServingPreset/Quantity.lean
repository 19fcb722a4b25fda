import ServingPreset.Number.DecimalText
import ServingPreset.Text.Blank
import ServingPreset.Text.Cut

/-!
# Storage quantities

Sizes are written as a number of gibibytes followed by `Gi`. The weights of a model
are rounded up to whole gibibytes; the disk that it needs is the number of whole
gibibytes of its size and a fixed reserve. A text that is no quantity counts as zero.
-/

namespace ServingPreset

namespace Quantity

/-- The number of bytes in a gibibyte. -/
def gibibyte : Nat := Nat.pow 2 30

/-- The disk reserved on top of the weights, in gibibytes. -/
def reserve : UInt64 := 50

/-- The quantity of a whole number of gibibytes. -/
def render (gibibytes : UInt64) : String :=
  DecimalText.render gibibytes.toNat ++ "Gi"

/-- The least number of whole gibibytes that holds a number of bytes. -/
def gibibytesOf (bytes : UInt64) : UInt64 :=
  UInt64.ofNat ((bytes.toNat + (gibibyte - 1)) / gibibyte)

/-- The quantity that holds a number of bytes. -/
def ofBytes (bytes : UInt64) : String :=
  render (gibibytesOf bytes)

/-- The number of a quantity, which is finite and not below zero. -/
structure Amount where
  /-- Whether the number is the negative zero. -/
  negative : Bool
  magnitude : Binary64
deriving DecidableEq, Repr

namespace Amount

/-- The 64 bits of the number. -/
def bits (amount : Amount) : Nat :=
  (if amount.negative then Nat.pow 2 63 else 0) + amount.magnitude.code

/-- The number of whole gibibytes, held at the limit of the word. -/
def wholeGibibytes (amount : Amount) : UInt64 :=
  clampUnsigned amount.magnitude.floor

end Amount

/-- The number of a text, if it is finite and not below zero. -/
def amountOf? (chars : List Char) : Option Amount :=
  match DecimalText.real? chars with
  | some (.number negative magnitude) =>
      if magnitude.isFinite && (!negative || magnitude = Binary64.zero) then
        some ⟨negative, magnitude⟩
      else none
  | _ => none

/-- The number that stands before the unit. -/
def parse? (text : String) : Option Amount :=
  (Text.withoutEnding? "Gi".toList (Text.trimChars text.toList)).bind fun number =>
    amountOf? (Text.trimChars number)

/-- The whole gibibytes of a text, zero when it is no quantity. -/
def wholeGibibytes (text : String) : UInt64 :=
  match parse? text with
  | some amount => amount.wholeGibibytes
  | none => 0

/-- The disk needed for a model of a given size. -/
def withReserve (size : String) : Except Fault String :=
  (addUnsigned (wholeGibibytes size) reserve).map render

end Quantity

end ServingPreset
