import SyntaxQuery.Decimal.Basic

/-!
Contract: the fewest decimal digits that read back as a given double.

Owns: the binary form of a double, the interval of reals that round to it, and the search for the
shortest and then nearest decimal in that interval.
Does not own: where the decimal point is put.
-/

namespace SyntaxQuery.Decimal

/-- The finite double `mantissa · 2 ^ scale`. `narrowBelow` holds at a power of two, where the next
smaller double is only half as far away as the next larger one. -/
structure Binary where
  mantissa : Nat
  scale : Int
  narrowBelow : Bool
deriving DecidableEq, Repr

/-- The binary form of the absolute value of a finite double. -/
def Binary.ofFloat (value : Float) : Binary :=
  let bits := value.toBits.toNat % (1 <<< 63)
  let field := bits / (1 <<< 52)
  let fraction := bits % (1 <<< 52)
  if field = 0 then ⟨fraction, -1074, false⟩
  else ⟨(1 <<< 52) + fraction, Int.ofNat field - 1075, fraction == 0 && 1 < field⟩

/-- What happens when two shortest decimals are equally near. -/
inductive Tie where
  | toEven
  | upward
deriving DecidableEq, Repr

/-- The least power of ten above a positive fraction below one, from `power` upward. -/
def fractionExponent (denominator : Nat) : Nat → Nat → Int → Int
  | 0, _, exponent => exponent
  | fuel + 1, numerator, exponent =>
      if denominator ≤ numerator then exponent
      else fractionExponent denominator fuel (numerator * 10) (exponent - 1)

/-- The exponent `e` with `10 ^ e ≤ numerator / denominator < 10 ^ (e + 1)`. -/
def leadingExponent (numerator denominator : Nat) : Int :=
  if denominator ≤ numerator then Int.ofNat (Nat.repr (numerator / denominator)).length - 1
  else fractionExponent denominator 400 numerator 0

/-- The grid point with spacing `10 ^ exponent` nearest to `value` among those of its two
neighbours that lie in the interval from `low` to `high`, all three over `denominator`. -/
def onGrid? (tie : Tie) (inclusive : Bool) (low value high denominator : Nat) (exponent : Int) :
    Option Nat :=
  let enlarge := Nat.pow 10 (-exponent).toNat
  let spacing := denominator * Nat.pow 10 exponent.toNat
  let low := low * enlarge
  let value := value * enlarge
  let high := high * enlarge
  let below := value / spacing
  let above := below + 1
  let belowFits := if inclusive then low ≤ below * spacing else low < below * spacing
  let aboveFits := if inclusive then above * spacing ≤ high else above * spacing < high
  if belowFits then
    if aboveFits then
      let down := value - below * spacing
      let up := above * spacing - value
      if down < up then some below
      else if up < down then some above
      else
        match tie with
        | .toEven => if below % 2 = 0 then some below else some above
        | .upward => some above
    else some below
  else if aboveFits then some above
  else none

/-- Tries the grids with more and more digits, `remaining` of them at most. -/
def searchGrids (tie : Tie) (inclusive : Bool) (low value high denominator : Nat) :
    Nat → Int → Nat × Int
  | 0, exponent => (0, exponent)
  | remaining + 1, exponent =>
      match onGrid? tie inclusive low value high denominator exponent with
      | some coefficient => (coefficient, exponent)
      | none => searchGrids tie inclusive low value high denominator remaining (exponent - 1)

/-- Moves the final zeros of a coefficient into the exponent. -/
def stripZeros : Nat → Nat × Int → Nat × Int
  | 0, number => number
  | fuel + 1, (coefficient, exponent) =>
      if coefficient ≠ 0 ∧ coefficient % 10 = 0 then
        stripZeros fuel (coefficient / 10, exponent + 1)
      else (coefficient, exponent)

/-- The shortest decimal that rounds to a positive double; seventeen digits always suffice. The
interval ends halfway to the neighbouring doubles and includes its ends when the mantissa is even,
as a tie is then rounded to it. -/
def Binary.shortest (tie : Tie) (binary : Binary) : Nat × Int :=
  let shift := binary.scale - 2
  let enlarge := 1 <<< shift.toNat
  let denominator := 1 <<< (-shift).toNat
  let value := 4 * binary.mantissa * enlarge
  let low := (4 * binary.mantissa - (if binary.narrowBelow then 1 else 2)) * enlarge
  let high := (4 * binary.mantissa + 2) * enlarge
  stripZeros 20 <|
    searchGrids tie (binary.mantissa % 2 == 0) low value high denominator 18
      (leadingExponent value denominator)

/-- The shortest decimal that reads back as a finite double. -/
def shortest (tie : Tie) (value : Float) : Decimal :=
  let binary := Binary.ofFloat value
  let negative := value.toBits.toNat / (1 <<< 63) == 1
  if binary.mantissa = 0 then ⟨negative, 0, 0⟩
  else
    let (coefficient, exponent) := binary.shortest tie
    ⟨negative, coefficient, exponent⟩

end SyntaxQuery.Decimal
