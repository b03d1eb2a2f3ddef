/-!
Contract: decimal numbers of any length and the double each of them stands for.

Owns:
- the value of a run of decimal digits;
- decimal numbers with a power-of-ten scale;
- the nearest double of such a number, a tie going to the even one.

Does not own: which texts spell a number, or how a double is written.
-/

namespace SyntaxQuery

def isDecimalDigit (character : Char) : Bool :=
  '0' ≤ character && character ≤ '9'

/-- The number that a digit character stands for. -/
def digitValue (character : Char) : Nat :=
  character.toNat - '0'.toNat

/-- The value of a digit in a base up to 36, if the character is a digit of that base. -/
def digitOf? (base : Nat) (character : Char) : Option Nat :=
  let value? : Option Nat :=
    if isDecimalDigit character then some (digitValue character)
    else if 'a' ≤ character ∧ character ≤ 'z' then some (character.toNat - 'a'.toNat + 10)
    else if 'A' ≤ character ∧ character ≤ 'Z' then some (character.toNat - 'A'.toNat + 10)
    else none
  value?.filter (· < base)

/-- The value of a run of digits in a base; a character that is no digit makes it undefined. -/
def natOfDigits? (base : Nat) (digits : List Char) : Option Nat :=
  digits.foldl (fun total? character => do
    let total ← total?
    let digit ← digitOf? base character
    pure (total * base + digit)) (some 0)

/-- The value of a run of decimal digits, other characters counting by their distance from `0`. -/
def natOfDigits (digits : List Char) : Nat :=
  digits.foldl (fun total character => total * 10 + digitValue character) 0

/-- The number `coefficient · 10 ^ exponent`, or its negative. -/
structure Decimal where
  negative : Bool
  coefficient : Nat
  exponent : Int
deriving DecidableEq, Repr

namespace Decimal

def infinity : Float :=
  Float.ofBits 0x7FF0000000000000

def notANumber : Float :=
  Float.ofBits 0x7FF8000000000000

/-- The power of ten just above a nonzero number. -/
def magnitude (decimal : Decimal) : Int :=
  decimal.exponent + (Nat.repr decimal.coefficient).length

/-- The double nearest to a decimal number. From `10 ^ 309` on that is infinity and below
`10 ^ (-324)` it is zero, so no larger power of ten is ever computed. -/
def toFloat (decimal : Decimal) : Float :=
  let absolute :=
    if decimal.coefficient = 0 then 0
    else if 309 < decimal.magnitude then infinity
    else if decimal.magnitude < -323 then 0
    else Float.ofScientific decimal.coefficient (decimal.exponent < 0) decimal.exponent.natAbs
  if decimal.negative then -absolute else absolute

end Decimal

/-- The double nearest to an integer. -/
def floatOfInt (value : Int) : Float :=
  Decimal.toFloat ⟨value < 0, value.natAbs, 0⟩

end SyntaxQuery
