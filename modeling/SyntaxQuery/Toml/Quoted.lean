import SyntaxQuery.Decimal.Basic
import SyntaxQuery.Text.Class
import SyntaxQuery.Toml.Basic

/-!
Contract: the quoted strings of TOML text.

Owns: the four kinds of strings, escapes, and line ends inside strings.
Does not own: where a string may stand.
-/

namespace SyntaxQuery.Toml

/-- A control character that no text may contain; the tab is allowed. -/
def isForbidden (character : Char) : Bool :=
  (character.toNat < 0x20 && character != '\t') || character == '\x7f'

def isBlank (character : Char) : Bool :=
  character == ' ' || character == '\t'

/-- The text after a line end. -/
def lineEnd? : List Char → Option (List Char)
  | '\n' :: rest => some rest
  | '\r' :: '\n' :: rest => some rest
  | _ => none

/-- The text after a line end, if it begins with one. -/
def dropLineEnd (text : List Char) : List Char :=
  (lineEnd? text).getD text

/-- Reads the character of a fixed number of hexadecimal digits. -/
def codeEscape? (count : Nat) (text : List Char) : Option (Char × List Char) := do
  let digits := text.take count
  if digits.length < count then none
  else
    let value ← natOfDigits? 16 digits
    let character ← Text.charOfCode? value
    some (character, text.drop count)

/-- Reads an escape after its backslash. -/
def escape? : List Char → Option (Char × List Char)
  | 'b' :: rest => some ('\x08', rest)
  | 't' :: rest => some ('\t', rest)
  | 'n' :: rest => some ('\n', rest)
  | 'f' :: rest => some ('\x0c', rest)
  | 'r' :: rest => some ('\r', rest)
  | 'e' :: rest => some ('\x1b', rest)
  | '"' :: rest => some ('"', rest)
  | '\\' :: rest => some ('\\', rest)
  | 'x' :: rest => codeEscape? 2 rest
  | 'u' :: rest => codeEscape? 4 rest
  | 'U' :: rest => codeEscape? 8 rest
  | _ => none

/-- Reads a string on one line up to its closing quote. `read` holds its characters, last first, and
every round consumes a character. -/
def singleLine? (quote : Char) (escapes : Bool) :
    Nat → List Char → List Char → Option (String × List Char)
  | 0, _, _ => none
  | _ + 1, _, [] => none
  | fuel + 1, read, character :: rest =>
      if character = quote then some (String.ofList read.reverse, rest)
      else if escapes ∧ character = '\\' then do
        let (meant, rest) ← escape? rest
        singleLine? quote escapes fuel (meant :: read) rest
      else if isForbidden character then none
      else singleLine? quote escapes fuel (character :: read) rest

/-- The text after the white space and line ends that a backslash at the end of a line drops, if only
blanks stand between the backslash and that line end. -/
def dropContinuation? (text : List Char) : Option (List Char) :=
  (lineEnd? (text.dropWhile isBlank)).map fun rest =>
    rest.dropWhile fun character => isBlank character || character == '\n' || character == '\r'

/-- Reads a string over several lines up to its three closing quotes, before which one or two quotes
may stand that belong to the string. -/
def multiLine? (quote : Char) (escapes : Bool) :
    Nat → List Char → List Char → Option (String × List Char)
  | 0, _, _ => none
  | _ + 1, _, [] => none
  | fuel + 1, read, character :: rest =>
      if character = quote then
        let count := ((character :: rest).takeWhile (· = quote)).length
        if count < 3 then multiLine? quote escapes fuel (quote :: read) rest
        else
          let closing := min count 5
          some (String.ofList (List.replicate (closing - 3) quote ++ read).reverse,
            (character :: rest).drop closing)
      else if escapes ∧ character = '\\' then
        match dropContinuation? rest with
        | some rest => multiLine? quote escapes fuel read rest
        | none => do
            let (meant, rest) ← escape? rest
            multiLine? quote escapes fuel (meant :: read) rest
      else
        match lineEnd? (character :: rest) with
        | some rest => multiLine? quote escapes fuel ('\n' :: read) rest
        | none =>
            if isForbidden character then none
            else multiLine? quote escapes fuel (character :: read) rest

/-- Reads a string on one line, from its opening quote. -/
def lineString? (text : List Char) : Option (String × List Char) :=
  match text with
  | '"' :: rest => singleLine? '"' true (rest.length + 1) [] rest
  | '\'' :: rest => singleLine? '\'' false (rest.length + 1) [] rest
  | _ => none

/-- Reads a string of any kind, from its opening quotes. A line end right after three opening quotes
does not belong to the string. -/
def quoted? (text : List Char) : Option (String × List Char) :=
  match text with
  | '"' :: '"' :: '"' :: rest =>
      let rest := dropLineEnd rest
      multiLine? '"' true (rest.length + 1) [] rest
  | '\'' :: '\'' :: '\'' :: rest =>
      let rest := dropLineEnd rest
      multiLine? '\'' false (rest.length + 1) [] rest
  | text => lineString? text

end SyntaxQuery.Toml
