import SyntaxQuery.Toml.Quoted
import SyntaxQuery.Toml.Scalar

/-!
Contract: TOML text to the table it describes.

Owns: keys, arrays, tables in braces, headers, comments, and the order of lines.
Does not own: strings and scalars, and which tables may be extended.
-/

namespace SyntaxQuery.Toml

/-- The text after the blanks at its start. -/
def dropBlanks (text : List Char) : List Char :=
  text.dropWhile isBlank

/-- The text after a comment's mark up to its line end. -/
def comment? : List Char → Option (List Char)
  | [] => some []
  | '\n' :: rest => some ('\n' :: rest)
  | '\r' :: '\n' :: rest => some ('\r' :: '\n' :: rest)
  | character :: rest => if isForbidden character then none else comment? rest

/-- The text after blanks, line ends and comments. Every round consumes a character. -/
def dropTrivia? : Nat → List Char → Option (List Char)
  | 0, text => some text
  | fuel + 1, text =>
      match dropBlanks text with
      | '#' :: rest => do dropTrivia? fuel (← comment? rest)
      | text =>
          match lineEnd? text with
          | some rest => dropTrivia? fuel rest
          | none => some text

/-- The text after blanks, line ends and comments. -/
def trivia? (text : List Char) : Option (List Char) :=
  dropTrivia? (text.length + 1) text

/-- The text of the next line, if only blanks and a comment stand before it. -/
def nextLine? (text : List Char) : Option (List Char) := do
  let text ←
    match dropBlanks text with
    | '#' :: rest => comment? rest
    | text => some text
  match text with
  | [] => some []
  | text => lineEnd? text

/-- A character of a key without quotes. -/
def isBareChar (character : Char) : Bool :=
  character.isAlphanum || character == '_' || character == '-'

/-- Reads one segment of a key. -/
def segment? (text : List Char) : Option (String × List Char) :=
  match text with
  | '"' :: _ => lineString? text
  | '\'' :: _ => lineString? text
  | text =>
      let name := text.takeWhile isBareChar
      if name.isEmpty then none else some (String.ofList name, text.dropWhile isBareChar)

/-- Reads a dotted key and the blanks after it. Every segment consumes a character. -/
def keyPath? : Nat → List Char → Option (List String × List Char)
  | 0, _ => none
  | fuel + 1, text => do
      let (first, rest) ← segment? (dropBlanks text)
      match dropBlanks rest with
      | '.' :: rest => do
          let (others, rest) ← keyPath? fuel rest
          some (first :: others, rest)
      | rest => some ([first], rest)

/-- Reads a dotted key and the blanks after it. -/
def key? (text : List Char) : Option (List String × List Char) :=
  keyPath? (text.length + 1) text

/-- How deeply arrays and tables in braces may nest. -/
def nestingLimit : Nat := 80

mutual

/-- Reads a value. `depth` is the number of containers that may still be opened, and every call of
these functions but one right after another consumes a character, so that three times the number of
characters suffices as `fuel`. -/
def value? : Nat → Nat → List Char → Option (Toml × List Char)
  | 0, _, _ => none
  | fuel + 1, depth, text =>
      match text with
      | '"' :: _ => (quoted? text).map fun (value, rest) => (.string value, rest)
      | '\'' :: _ => (quoted? text).map fun (value, rest) => (.string value, rest)
      | '[' :: rest =>
          match depth with
          | 0 => none
          | depth + 1 => do
              let (items, rest) ← items? fuel depth rest
              some (.array items, rest)
      | '\x7b' :: rest =>
          match depth with
          | 0 => none
          | depth + 1 => do
              let (read, rest) ← pairs? fuel depth ⟨.inline, []⟩ rest
              some (.table .inline read.entries, rest)
      | text =>
          let (scalar, rest) := takeScalar text
          (scalar? scalar).map fun value => (value, rest)

/-- Reads the items of an array up to its closing bracket. -/
def items? : Nat → Nat → List Char → Option (List Toml × List Char)
  | 0, _, _ => none
  | fuel + 1, depth, text => do
      match ← trivia? text with
      | ']' :: rest => some ([], rest)
      | text => do
          let (item, rest) ← value? fuel depth text
          match ← trivia? rest with
          | ']' :: rest => some ([item], rest)
          | ',' :: rest => do
              let (others, rest) ← items? fuel depth rest
              some (item :: others, rest)
          | _ => none

/-- Reads the pairs of a table up to its closing brace, adding them to those read before. -/
def pairs? : Nat → Nat → Table → List Char → Option (Table × List Char)
  | 0, _, _, _ => none
  | fuel + 1, depth, read, text => do
      match ← trivia? text with
      | '\x7d' :: rest => some (read, rest)
      | text => do
          let (path, rest) ← key? text
          match rest with
          | '=' :: rest => do
              let (value, rest) ← value? fuel depth (dropBlanks rest)
              let extended ← read.addPath path value
              match ← trivia? rest with
              | '\x7d' :: rest => some (extended, rest)
              | ',' :: rest => pairs? fuel depth extended rest
              | _ => none
          | _ => none

end

/-- A document as far as it has been read: its root, and the path of the last header. -/
structure Draft where
  root : Table
  header : List String

def Draft.openHeader (draft : Draft) (repeated : Bool) (path : List String) : Option Draft := do
  let key ← path.getLast?
  let change := if repeated then Table.openRepeated key else Table.openHeader key
  let root ← Table.modify false change path.dropLast draft.root
  some ⟨root, path⟩

/-- Adds a pair to the table of the last header. -/
def Draft.addPair (draft : Draft) (path : List String) (value : Toml) : Option Draft := do
  let root ← Table.modify false (Table.addPath path value) draft.header draft.root
  some { draft with root := root }

/-- Reads what stands on a line, if anything: a header or a pair. -/
def expression? (draft : Draft) (text : List Char) : Option (Draft × List Char) :=
  match text with
  | [] => some (draft, [])
  | '\n' :: _ => some (draft, text)
  | '\r' :: _ => some (draft, text)
  | '#' :: _ => some (draft, text)
  | '[' :: '[' :: rest => do
      let (path, rest) ← key? rest
      match rest with
      | ']' :: ']' :: rest => do some (← draft.openHeader true path, rest)
      | _ => none
  | '[' :: rest => do
      let (path, rest) ← key? rest
      match rest with
      | ']' :: rest => do some (← draft.openHeader false path, rest)
      | _ => none
  | text => do
      let (path, rest) ← key? text
      match rest with
      | '=' :: rest => do
          let text := dropBlanks rest
          let (value, rest) ← value? (3 * text.length + 3) nestingLimit text
          some (← draft.addPair path value, rest)
      | _ => none

/-- Reads lines to the end of a text. Every line consumes a character. -/
def lines? : Nat → Draft → List Char → Option Draft
  | 0, _, _ => none
  | _ + 1, draft, [] => some draft
  | fuel + 1, draft, text => do
      let (draft, rest) ← expression? draft (dropBlanks text)
      lines? fuel draft (← nextLine? rest)

/-- The entries of the table that a text describes. A byte order mark at the start is skipped. -/
def read? (text : String) : Option Entries := do
  let characters :=
    match text.toList with
    | '\ufeff' :: rest => rest
    | characters => characters
  let draft ← lines? (characters.length + 1) ⟨⟨.header, []⟩, []⟩ characters
  some draft.root.entries

end SyntaxQuery.Toml
