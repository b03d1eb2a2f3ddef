/-!
Contract: the white-space class of every text rule in this library, and trimming by it.

Owns: the Unicode `White_Space` class and the removal of white space at the ends of a text.
Does not own: the smaller sets that the grammars of JSON and TOML allow between their tokens.
-/

namespace SyntaxQuery.Text

/-- A character is blank when it has the Unicode property `White_Space`. -/
def isBlank (character : Char) : Bool :=
  let code := character.toNat
  (9 ≤ code && code ≤ 13) || code == 0x20 || code == 0x85 || code == 0xA0 || code == 0x1680 ||
    (0x2000 ≤ code && code ≤ 0x200A) || code == 0x2028 || code == 0x2029 || code == 0x202F ||
    code == 0x205F || code == 0x3000

/-- Removes the blank characters at the end of a text. -/
def trimEnd (text : List Char) : List Char :=
  (text.reverse.dropWhile isBlank).reverse

/-- Removes the blank characters at both ends of a text. -/
def trim (text : List Char) : List Char :=
  trimEnd (text.dropWhile isBlank)

/-- A text is blank when trimming leaves nothing of it. -/
def blank (text : String) : Bool :=
  (trim text.toList).isEmpty

end SyntaxQuery.Text
