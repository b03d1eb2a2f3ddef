import SyntaxQuery.Expression.Basic
import SyntaxQuery.Decimal.Basic

/-!
Contract: the escapes of pattern text.

Owns:
- the flags that change how the rest of a pattern is read;
- skipping of white space and comments where the flags allow them;
- escapes for characters, classes and positions.

Does not own: groups, repetitions and bracketed sets.
-/

namespace SyntaxQuery.Expression

/-- The flags in force at a place of a pattern. -/
structure Flags where
  ignoreCase : Bool
  multiLine : Bool
  dotAll : Bool
  unicode : Bool
  crlf : Bool
  /-- White space and comments are skipped. -/
  spaced : Bool
deriving DecidableEq, Repr

/-- The flags at the start of a pattern without options. -/
def Flags.default : Flags := ⟨false, false, false, true, false, false⟩

/-- Drops white space and comments; a comment runs from `#` to the end of its line. -/
def dropSpace (inComment : Bool) : List Char → List Char
  | [] => []
  | character :: rest =>
      if inComment then dropSpace (character != '\n') rest
      else if Text.isBlank character then dropSpace false rest
      else if character = '#' then dropSpace true rest
      else character :: rest

/-- The pattern from the next character that counts. -/
def Flags.skip (flags : Flags) (text : List Char) : List Char :=
  if flags.spaced then dropSpace false text else text

/-- What a single escape or plain character of a pattern stands for. -/
inductive Atom where
  | literal (character : Char)
  | assertion (condition : Assertion)
  | named (name : ClassName) (negated : Bool)

/-- Characters with a meaning of their own somewhere in patterns. -/
def isMeta (character : Char) : Bool :=
  "\\.+*?()|[]\x7b\x7d^$#&-~".toList.contains character

/-- ASCII characters that stand for themselves after a backslash: all but letters, digits and the
angle brackets. -/
def isEscapable (character : Char) : Bool :=
  isMeta character ||
    (character.toNat < 0x80 && !character.isAlphanum && character != '<' && character != '>')

/-- Reads a fixed number of hexadecimal digits; `value` is what the digits before them spell. -/
def hexDigits? (flags : Flags) : Nat → Nat → List Char → Option (Char × List Char)
  | 0, value, text => do
      let character ← Text.charOfCode? value
      some (character, flags.skip text)
  | count + 1, value, text =>
      match flags.skip text with
      | [] => none
      | digit :: rest => do
          let digit ← digitOf? 16 digit
          hexDigits? flags count (value * 16 + digit) rest

/-- The digits up to the closing brace of a hexadecimal escape, last first; `fuel` bounds them. -/
def bracedDigits? (flags : Flags) : Nat → List Char → List Char → Option (List Char × List Char)
  | 0, _, _ => none
  | fuel + 1, digits, text =>
      match flags.skip text with
      | [] => none
      | '\x7d' :: rest => some (digits, flags.skip rest)
      | digit :: rest =>
          if (digitOf? 16 digit).isSome then bracedDigits? flags fuel (digit :: digits) rest else none

/-- A hexadecimal escape after its letter, with that letter's number of digits or in braces. Two
digits name a byte where Unicode is switched off, and only ASCII bytes are characters. -/
def hexEscape? (flags : Flags) (count : Nat) (text : List Char) : Option (Char × List Char) :=
  match flags.skip text with
  | '\x7b' :: rest => do
      let (digits, rest) ← bracedDigits? flags (rest.length + 1) [] rest
      if digits = [] then none
      else
        let value ← natOfDigits? 16 digits.reverse
        let character ← Text.charOfCode? value
        some (character, rest)
  | rest => do
      let (character, rest) ← hexDigits? flags count 0 rest
      if count = 2 ∧ !flags.unicode ∧ 0x80 ≤ character.toNat then none else some (character, rest)

/-- A character of the name of a word edge. -/
def isEdgeNameChar (character : Char) : Bool :=
  character.isAlpha || character == '-'

/-- The name of a word edge and the pattern after it; `fuel` bounds its length. -/
def edgeName (flags : Flags) : Nat → List Char → List Char × List Char
  | 0, text => ([], text)
  | fuel + 1, text =>
      match text with
      | character :: rest =>
          if isEdgeNameChar character then
            let (name, rest) := edgeName flags fuel (flags.skip rest)
            (character :: name, rest)
          else ([], text)
      | [] => ([], [])

/-- The word edge with a name. -/
def edgeOfName? (name : String) : Option WordEdge :=
  if name = "start" then some .start
  else if name = "end" then some .finish
  else if name = "start-half" then some .startHalf
  else if name = "end-half" then some .finishHalf
  else none

/-- What may follow `\b`: a name in braces chooses a particular edge, and a brace that no name
follows is left for a repetition. -/
def wordEdge? (flags : Flags) (text : List Char) : Option (WordEdge × List Char) :=
  match text with
  | '\x7b' :: inside =>
      match flags.skip inside with
      | [] => none
      | character :: rest =>
          if isEdgeNameChar character then
            match edgeName flags (rest.length + 1) (character :: rest) with
            | (name, '\x7d' :: rest) => do
                let edge ← edgeOfName? (String.ofList name)
                some (edge, rest)
            | _ => none
          else some (.boundary, text)
  | _ => some (.boundary, text)

/-- An escape after its backslash. -/
def escape? (flags : Flags) : List Char → Option (Atom × List Char)
  | [] => none
  | character :: rest =>
      let literal (meant : Char) : Option (Atom × List Char) := some (.literal meant, rest)
      let position (condition : Assertion) : Option (Atom × List Char) :=
        some (.assertion condition, rest)
      let hex (count : Nat) : Option (Atom × List Char) := do
        let (meant, rest) ← hexEscape? flags count rest
        some (.literal meant, rest)
      if isEscapable character then literal character
      else
        match character with
        | 'x' => hex 2
        | 'u' => hex 4
        | 'U' => hex 8
        | 'd' => some (.named .digit false, rest)
        | 'D' => some (.named .digit true, rest)
        | 's' => some (.named .space false, rest)
        | 'S' => some (.named .space true, rest)
        | 'w' => some (.named .word false, rest)
        | 'W' => some (.named .word true, rest)
        | 'a' => literal '\x07'
        | 'f' => literal '\x0c'
        | 't' => literal '\t'
        | 'n' => literal '\n'
        | 'r' => literal '\r'
        | 'v' => literal '\x0b'
        | 'A' => position .textStart
        | 'z' => position .textEnd
        | 'b' => do
            let (edge, rest) ← wordEdge? flags rest
            some (.assertion (.word edge flags.unicode), rest)
        | 'B' => position (.word .interior flags.unicode)
        | '<' => position (.word .start flags.unicode)
        | '>' => position (.word .finish flags.unicode)
        | _ => none

end SyntaxQuery.Expression
