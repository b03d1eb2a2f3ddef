import SyntaxQuery.Text.Segments

/-!
Contract: chains of messages as text.

Owns: the layout of a failure that ends a command, with its causes listed below it, and the single
line for a failure that does not.
Does not own: the messages.
-/

namespace SyntaxQuery.Command

def linesOf (text : String) : List String :=
  (Text.splitAt '\n' text.toList).map String.ofList

/-- A text with one indent for its first line and another for the lines after it. -/
def indentLines (first later text : String) : String :=
  match linesOf text with
  | [] => first
  | line :: rest => first ++ line ++ String.join (rest.map fun line => "\n" ++ later ++ line)

/-- A number in five places, set to the right, with a colon and a space. -/
def ordinal (index : Nat) : String :=
  let digits := Nat.repr index
  String.ofList (List.replicate (5 - digits.length) ' ') ++ digits ++ ": "

/-- Causes with their numbers, each from a line of its own. -/
def numberedCauses : Nat → List String → String
  | _, [] => ""
  | index, cause :: rest =>
      "\n" ++ indentLines (ordinal index) "       " cause ++ numberedCauses (index + 1) rest

/-- The list of causes; a single one has no number. -/
def causesText : List String → String
  | [] => ""
  | [cause] => "\n\nCaused by:\n" ++ indentLines "    " "    " cause
  | causes => "\n\nCaused by:" ++ numberedCauses 0 causes

/-- The text of a failure that ends a command, from its outermost message and the causes of that. -/
def failureText (chain : List String) : String :=
  "Error: " ++ chain.headD "" ++ causesText chain.tail ++ "\n"

/-- A chain of messages on one line. -/
def inlineChain (chain : List String) : String :=
  ": ".intercalate chain

end SyntaxQuery.Command
