import ServingPreset.Number.Binary64

/-!
# JSON values

A value as a document states it. Integers that fit a 64-bit word, signed or
unsigned, are kept exactly; every other number is a binary floating-point number.
The members of an object have different names: `putMember` replaces the value of
a name that is present, so the last statement about a name counts.
-/

namespace ServingPreset

namespace Json

/-- A number of a document. -/
inductive Number where
  /-- An integer from the range of the signed or the unsigned 64-bit word. -/
  | integer (value : Int)
  | real (negative : Bool) (magnitude : Binary64)
deriving DecidableEq, Repr, Inhabited

/-- A JSON value. -/
inductive Value where
  | null
  | bool (value : Bool)
  | number (value : Number)
  | string (value : String)
  | array (elements : List Value)
  | object (members : List (String × Value))
deriving Repr, Inhabited

/-- State a member: the value of a present name is replaced, a new name is added at the end. -/
def putMember (name : String) (value : Value) : List (String × Value) → List (String × Value)
  | [] => [(name, value)]
  | head :: tail =>
      if head.1 = name then (name, value) :: tail else head :: putMember name value tail

namespace Value

/-- The value of a member of an object. -/
def get? (value : Value) (name : String) : Option Value :=
  match value with
  | object members => (members.find? (fun member => member.1 == name)).map (·.2)
  | _ => none

/-- The text of a string value. -/
def string? : Value → Option String
  | string value => some value
  | _ => none

/-- The truth value of a Boolean. -/
def bool? : Value → Option Bool
  | bool value => some value
  | _ => none

/-- The elements of an array. -/
def array? : Value → Option (List Value)
  | array elements => some elements
  | _ => none

/-- The members of an object. -/
def object? : Value → Option (List (String × Value))
  | object members => some members
  | _ => none

/-- The unsigned word of an integer in its range. -/
def unsigned? : Value → Option UInt64
  | number (.integer value) => if 0 ≤ value then some (UInt64.ofNat value.toNat) else none
  | _ => none

/-- A number that stands for an unsigned word. -/
def ofUnsigned (value : UInt64) : Value :=
  number (.integer value.toNat)

/-- An array of strings. -/
def ofStrings (texts : List String) : Value :=
  array (texts.map string)

end Value

end Json

end ServingPreset
