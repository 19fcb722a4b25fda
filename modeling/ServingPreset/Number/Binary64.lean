/-!
# Binary floating point by exact arithmetic

Finite nonnegative numbers of the 64-bit binary format, held by their encoding
without the sign bit. Encodings are ordered as the numbers are, and every such
number is a whole multiple of the least positive one, `2 ^ (-1074)`. Rounding a
quotient of natural numbers is therefore a division on that grid: the nearest
grid point is taken, and of two equally near ones the one with the even
significand.
-/

namespace ServingPreset

/-- A nonnegative number of the 64-bit binary format, by its encoding without the sign. -/
structure Binary64 where
  /-- The exponent field followed by the 52 bits of the fraction field. -/
  code : Nat
deriving DecidableEq, Repr, Inhabited

namespace Binary64

/-- The encoding of infinity; a greater code is not a number. -/
def infiniteCode : Nat := 2047 * Nat.pow 2 52

/-- The number of least positive numbers in one: `2 ^ 1074`. -/
def gridPerUnit : Nat := Nat.pow 2 1074

/-- The number zero. -/
def zero : Binary64 := ⟨0⟩

/-- Whether the number is finite. -/
def isFinite (number : Binary64) : Bool :=
  number.code < infiniteCode

/-- The exact value of a finite number, as a multiple of the least positive number. -/
def gridSteps (number : Binary64) : Nat :=
  let exponent := number.code / Nat.pow 2 52
  let fraction := number.code % Nat.pow 2 52
  if exponent = 0 then fraction else (Nat.pow 2 52 + fraction) * Nat.pow 2 (exponent - 1)

/-- The exact value of a finite number. -/
def toRat (number : Binary64) : Rat :=
  mkRat number.gridSteps gridPerUnit

/-- The greatest natural number that is not above a finite number. -/
def floor (number : Binary64) : Nat :=
  number.gridSteps / gridPerUnit

/-- A quotient rounded to the nearest whole number, a half to the even neighbour. -/
def roundQuotient (numerator denominator : Nat) : Nat :=
  let quotient := numerator / denominator
  let twice := 2 * (numerator % denominator)
  if twice < denominator then quotient
  else if twice = denominator then quotient + quotient % 2
  else quotient + 1

/--
The number nearest to a quotient. The quotient in grid steps is cut to 53
significant bits; a carry out of the significand raises the exponent by itself,
because the fields are adjacent, and beyond the greatest finite number the code
becomes one of infinity or more.
-/
def ofQuotient (numerator denominator : Nat) : Binary64 :=
  let steps := numerator * gridPerUnit
  let shift := (steps / denominator).log2 - 52
  ⟨shift * Nat.pow 2 52 + roundQuotient steps (denominator * Nat.pow 2 shift)⟩

/-- The number nearest to a natural number. -/
def ofNat (value : Nat) : Binary64 :=
  ofQuotient value 1

/-- The product of two finite numbers, rounded once. -/
def mul (left right : Binary64) : Binary64 :=
  ofQuotient (left.gridSteps * right.gridSteps) (gridPerUnit * gridPerUnit)

/-- The quotient of two finite numbers, rounded once. -/
def div (left right : Binary64) : Binary64 :=
  ofQuotient left.gridSteps right.gridSteps

/--
The number nearest to `digits * 10 ^ exponent`. Far outside the range of the
format the power is not formed: the result is infinite or zero there anyway.
-/
def ofDecimal (digits : Nat) (exponent : Int) : Binary64 :=
  if digits = 0 then zero
  else if 400 < exponent then ⟨infiniteCode⟩
  else if exponent + digits.log2 < -400 then zero
  else if 0 ≤ exponent then ofQuotient (digits * Nat.pow 10 exponent.toNat) 1
  else ofQuotient digits (Nat.pow 10 (-exponent).toNat)

end Binary64

end ServingPreset
