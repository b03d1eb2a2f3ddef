import SyntaxQuery.Decimal.Basic
import SyntaxQuery.Text.Blank

/-!
Contract: which texts spell a number, and which double they spell.

Owns:
- signed decimal numerals with an optional fraction and exponent;
- radix numerals after `0x`, `0o` and `0b`;
- the number that an attribute text counts as in a comparison.

Does not own: the stricter numerals of JSON.
-/

namespace SyntaxQuery.Numeral

/-- A leading sign and the characters after it; no sign counts as plus. -/
def takeSign : List Char → Bool × List Char
  | '-' :: rest => (true, rest)
  | '+' :: rest => (false, rest)
  | text => (false, text)

/-- The exponent part of a decimal numeral, zero when there is none. -/
def exponent? : List Char → Option Int
  | [] => some 0
  | mark :: rest =>
      if mark = 'e' ∨ mark = 'E' then
        let (negative, digits) := takeSign rest
        if digits ≠ [] ∧ digits.all isDecimalDigit then
          let size := Int.ofNat (natOfDigits digits)
          some (if negative then -size else size)
        else none
      else none

/-- A decimal numeral: an optional sign, digits with at most one point among or beside them and at
least one digit, and an optional exponent. -/
def decimal? (text : List Char) : Option Decimal :=
  let (negative, unsigned) := takeSign text
  let whole := unsigned.takeWhile isDecimalDigit
  let afterWhole := unsigned.dropWhile isDecimalDigit
  let (fraction, afterFraction) :=
    match afterWhole with
    | '.' :: rest => (rest.takeWhile isDecimalDigit, rest.dropWhile isDecimalDigit)
    | rest => ([], rest)
  if whole = [] ∧ fraction = [] then none
  else
    (exponent? afterFraction).map fun exponent =>
      ⟨negative, natOfDigits (whole ++ fraction), exponent - fraction.length⟩

/-- The base that a numeral's first two characters announce, and the characters after them. -/
def radix? : List Char → Option (Nat × List Char)
  | '0' :: mark :: digits =>
      if mark = 'x' ∨ mark = 'X' then some (16, digits)
      else if mark = 'o' ∨ mark = 'O' then some (8, digits)
      else if mark = 'b' ∨ mark = 'B' then some (2, digits)
      else none
  | _ => none

/-- The digits after a radix mark, added up in doubles from the left, so that each step rounds. -/
def radixValue (base : Nat) (digits : List Char) : Float :=
  let total? := digits.foldl (fun total? character => do
    let total ← total?
    let digit ← digitOf? base character
    pure (total * Float.ofNat base + Float.ofNat digit)) (some 0.0)
  if digits = [] then Decimal.notANumber else total?.getD Decimal.notANumber

/-- The number that a text counts as: zero when blank, infinity when spelled out, the value of a
radix or decimal numeral, and otherwise not a number. White space at the ends is ignored. -/
def value (text : String) : Float :=
  let trimmed := Text.trim text.toList
  if trimmed = [] then 0
  else if trimmed = "Infinity".toList ∨ trimmed = "+Infinity".toList then Decimal.infinity
  else if trimmed = "-Infinity".toList then -Decimal.infinity
  else
    match radix? trimmed with
    | some (base, digits) => radixValue base digits
    | none =>
        match decimal? trimmed with
        | some decimal => decimal.toFloat
        | none => Decimal.notANumber

end SyntaxQuery.Numeral
