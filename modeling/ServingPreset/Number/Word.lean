/-!
# Machine words

Arithmetic on 64-bit words that reports what does not fit. An operation either
stays in range, stops with a `Fault`, or saturates at the limits; which of the
three applies is chosen by name at each use.
-/

namespace ServingPreset

/-- A reason to stop at once, apart from every failure that callers are told about. -/
inductive Fault where
  | additionOverflow
  | multiplicationOverflow
  /-- A model was registered under the empty name. -/
  | unnamedModel
deriving DecidableEq, Repr, Inhabited

namespace Fault

/-- The wording of a fault. -/
def message : Fault → String
  | additionOverflow => "attempt to add with overflow"
  | multiplicationOverflow => "attempt to multiply with overflow"
  | unnamedModel => "model name is not specified"

end Fault

/-- The greatest unsigned 64-bit word. -/
def maxUnsigned : Nat := Nat.pow 2 64 - 1

/-- The least signed 64-bit word. -/
def minSigned : Int := -(Nat.pow 2 63 : Nat)

/-- The greatest signed 64-bit word. -/
def maxSigned : Int := (Nat.pow 2 63 : Nat) - 1

/-- The unsigned word nearest to a natural number. -/
def clampUnsigned (value : Nat) : UInt64 :=
  UInt64.ofNat (min value maxUnsigned)

/-- The signed word nearest to an integer. -/
def clampSigned (value : Int) : Int64 :=
  Int64.ofInt (max minSigned (min value maxSigned))

/-- The signed word of an integer, if there is one. -/
def signedWord? (value : Int) : Option Int64 :=
  if minSigned ≤ value ∧ value ≤ maxSigned then some (Int64.ofInt value) else none

/-- The sum of two unsigned words, or the fault that it leaves the range. -/
def addUnsigned (left right : UInt64) : Except Fault UInt64 :=
  if left.toNat + right.toNat ≤ maxUnsigned then .ok (left + right)
  else .error .additionOverflow

/-- The sum of two signed words, or the fault that it leaves the range. -/
def addSigned (left right : Int64) : Except Fault Int64 :=
  match signedWord? (left.toInt + right.toInt) with
  | some sum => .ok sum
  | none => .error .additionOverflow

/-- The product of two signed words, or the fault that it leaves the range. -/
def mulSigned (left right : Int64) : Except Fault Int64 :=
  match signedWord? (left.toInt * right.toInt) with
  | some product => .ok product
  | none => .error .multiplicationOverflow

/-- The product of two signed words, held at the limits. -/
def mulSaturating (left right : Int64) : Int64 :=
  clampSigned (left.toInt * right.toInt)

/-- A signed word as an unsigned one, zero for a negative word. -/
def unsignedOrZero (value : Int64) : UInt64 :=
  UInt64.ofNat value.toInt.toNat

end ServingPreset
