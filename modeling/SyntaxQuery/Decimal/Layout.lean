import SyntaxQuery.Decimal.Shortest

/-!
Contract: the two texts that a double has in this library.

Owns: positional and exponent notation of a decimal, and the record of choices that fixes where one
gives way to the other.
Does not own: which digits are written.
-/

namespace SyntaxQuery.Decimal

/-- The choices of a number format. A number `d.ddd · 10 ^ e` is written positionally when `e` is at
least `leastPositional` and below `positionalLimit`. -/
structure Layout where
  leastPositional : Int
  positionalLimit : Int
  /-- What follows the digits of a whole number in positional notation. -/
  wholeEnd : String
  tie : Tie
deriving Repr

/-- Numbers in JSON text keep a fraction, so that they are told from integers, and use an exponent
outside `[10 ^ (-5), 10 ^ 16)`. -/
def Layout.json : Layout := ⟨-5, 16, ".0", .toEven⟩

/-- Numbers compared as text have no fraction when they are whole, and use an exponent outside
`[10 ^ (-6), 10 ^ 21)`. -/
def Layout.attribute : Layout := ⟨-6, 21, "", .upward⟩

def zeros (count : Nat) : String :=
  String.ofList (List.replicate count '0')

/-- The digits of a nonzero number `d.ddd · 10 ^ exponent` in positional notation. -/
def positional (wholeEnd : String) (digits : List Char) (exponent : Int) : String :=
  if exponent < 0 then
    "0." ++ zeros ((-exponent).toNat - 1) ++ String.ofList digits
  else
    let whole := exponent.toNat + 1
    if digits.length ≤ whole then
      String.ofList digits ++ zeros (whole - digits.length) ++ wholeEnd
    else
      String.ofList (digits.take whole) ++ "." ++ String.ofList (digits.drop whole)

/-- The digits of a nonzero number `d.ddd · 10 ^ exponent` with the exponent written out. -/
def scientific (digits : List Char) (exponent : Int) : String :=
  let mantissa :=
    match digits with
    | [] => ""
    | [digit] => String.ofList [digit]
    | digit :: rest => String.ofList (digit :: '.' :: rest)
  let sign := if exponent < 0 then "-" else "+"
  mantissa ++ "e" ++ sign ++ Nat.repr exponent.natAbs

/-- The absolute value of a nonzero decimal in a layout. -/
def Layout.render (layout : Layout) (decimal : Decimal) : String :=
  let digits := (Nat.repr decimal.coefficient).toList
  let exponent := decimal.magnitude - 1
  if layout.leastPositional ≤ exponent ∧ exponent < layout.positionalLimit then
    positional layout.wholeEnd digits exponent
  else scientific digits exponent

/-- A double as a JSON number. Zero keeps its sign; there is no text for a number that is not
finite. -/
def jsonText (value : Float) : String :=
  let decimal := shortest Layout.json.tie value
  let sign := if decimal.negative then "-" else ""
  if decimal.coefficient = 0 then sign ++ "0.0" else sign ++ Layout.json.render decimal

/-- A double as the text that attribute tests compare. Zero has no sign. -/
def attributeText (value : Float) : String :=
  if value.isNaN then "NaN"
  else if value.isInf then if value < 0 then "-Infinity" else "Infinity"
  else
    let decimal := shortest Layout.attribute.tie value
    if decimal.coefficient = 0 then "0"
    else (if decimal.negative then "-" else "") ++ Layout.attribute.render decimal

end SyntaxQuery.Decimal
