/-!
Contract: emphasis in terminal output.

Owns: the styles, the control sequences that open and close them, and the case that output is plain.
Does not own: whether a terminal shows them.
-/

namespace SyntaxQuery

inductive Style where
  | bold
  | dim
  | red
  | green
  | cyan
deriving DecidableEq, Repr

namespace Style

/-- The sequence that opens a style. -/
def opening : Style → String
  | .bold => "\x1b[1m"
  | .dim => "\x1b[2m"
  | .red => "\x1b[31m"
  | .green => "\x1b[32m"
  | .cyan => "\x1b[36m"

/-- The sequence that closes every style. -/
def closing : String := "\x1b[0m"

/-- A text in a style, or as it is when output is plain. A closing sequence within the text would end
the style, so the style is opened again after it. -/
def paint (colored : Bool) (style : Style) (text : String) : String :=
  if colored then
    style.opening ++ text.replace closing (closing ++ style.opening) ++ closing
  else text

end Style

end SyntaxQuery
