import SyntaxQuery.Text.Case
import SyntaxQuery.Text.ClassTable

/-!
Contract: the Unicode character classes that patterns and names use.

Owns: the code points that are characters, and alphabetic, numeric, decimal digit and word characters
as predicates on code points.
Does not own: their tables.
-/

namespace SyntaxQuery.Text

/-- The character with a code, if there is one. -/
def charOfCode? (code : Nat) : Option Char :=
  if code < 0xD800 ∨ (0xDFFF < code ∧ code < 0x110000) then some (Char.ofNat code) else none

/-- Letters and what is used like them. -/
def isAlphabetic (code : Nat) : Bool :=
  inRanges ClassTable.alphabetic code

/-- Numbers of any kind. -/
def isNumeric (code : Nat) : Bool :=
  inRanges ClassTable.number code

/-- The decimal digits of every script. -/
def isDecimal (code : Nat) : Bool :=
  inRanges ClassTable.decimalDigit code

/-- The ASCII letters, digits and the underscore. -/
def isAsciiWord (code : Nat) : Bool :=
  (0x61 ≤ code && code ≤ 0x7A) || (0x41 ≤ code && code ≤ 0x5A) || (0x30 ≤ code && code ≤ 0x39) ||
    code == 0x5F

/-- Characters that make up words: alphabetic ones, marks, decimal digits, connector punctuation
and the two join controls. -/
def isWord (code : Nat) : Bool :=
  if code < 0x80 then isAsciiWord code
  else
    isAlphabetic code || inRanges ClassTable.mark code || isDecimal code ||
      inRanges ClassTable.connector code || code == 0x200C || code == 0x200D

end SyntaxQuery.Text
