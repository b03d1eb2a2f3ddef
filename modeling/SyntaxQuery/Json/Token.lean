import SyntaxQuery.Json.Basic
import SyntaxQuery.Decimal.Layout

/-!
Contract: the lexical layer of JSON text.

Owns:
- the tokens and the text of each;
- a scanner that reads a text one character at a time;
- the strict rules for numerals, strings and escapes.

Does not own: how tokens are put together to values.
-/

namespace SyntaxQuery.Json

/-- The lexical units of JSON text. -/
inductive Token where
  | beginArray
  | endArray
  | beginObject
  | endObject
  | comma
  | colon
  | null
  | bool (value : Bool)
  | number (value : Number)
  | string (value : String)

/-- The white space allowed between tokens. -/
def isSpace (character : Char) : Bool :=
  character == ' ' || character == '\t' || character == '\n' || character == '\r'

/-- The integer range in which a numeral without fraction and exponent stays an integer. -/
def integerRange (value : Int) : Bool :=
  -Int.ofNat (1 <<< 63) ≤ value && value < Int.ofNat (1 <<< 64)

/-- The digits of an unsigned whole number: no superfluous zero in front. -/
def wholeDigits (digits : List Char) : Bool :=
  match digits with
  | [] => false
  | ['0'] => true
  | '0' :: _ => false
  | _ => true

/-- The exponent part of a numeral, with its sign. -/
def exponentPart? : List Char → Option Int
  | '-' :: digits =>
      if digits ≠ [] ∧ digits.all isDecimalDigit then some (-Int.ofNat (natOfDigits digits)) else none
  | '+' :: digits =>
      if digits ≠ [] ∧ digits.all isDecimalDigit then some (Int.ofNat (natOfDigits digits)) else none
  | digits =>
      if digits ≠ [] ∧ digits.all isDecimalDigit then some (Int.ofNat (natOfDigits digits)) else none

/-- The number of a decimal numeral, unless it lies beyond the doubles. -/
def finiteNumber? (decimal : Decimal) : Option Number :=
  let value := decimal.toFloat
  if value.isInf then none else some (.double value)

/-- The number that the characters of a numeral spell. A numeral without fraction and exponent is an
integer when it fits, except that minus zero is a double. -/
def numeral? (text : List Char) : Option Number :=
  let (negative, unsigned) :=
    match text with
    | '-' :: rest => (true, rest)
    | rest => (false, rest)
  let whole := unsigned.takeWhile isDecimalDigit
  let afterWhole := unsigned.dropWhile isDecimalDigit
  if !wholeDigits whole then none
  else
    let (fraction?, afterFraction) :=
      match afterWhole with
      | '.' :: rest => (some (rest.takeWhile isDecimalDigit), rest.dropWhile isDecimalDigit)
      | rest => (none, rest)
    if fraction? = some [] then none
    else
      let fraction := fraction?.getD []
      let coefficient := natOfDigits (whole ++ fraction)
      match afterFraction with
      | [] =>
          let value := if negative then -Int.ofNat coefficient else Int.ofNat coefficient
          if fraction?.isNone ∧ integerRange value ∧ !(negative && coefficient == 0) then
            some (.integer value)
          else finiteNumber? ⟨negative, coefficient, -Int.ofNat fraction.length⟩
      | mark :: digits =>
          if mark = 'e' ∨ mark = 'E' then do
            let exponent ← exponentPart? digits
            finiteNumber? ⟨negative, coefficient, exponent - fraction.length⟩
          else none

/-- The token that a run of letters spells. -/
def word? (letters : List Char) : Option Token :=
  if letters = ['n', 'u', 'l', 'l'] then some .null
  else if letters = ['t', 'r', 'u', 'e'] then some (.bool true)
  else if letters = ['f', 'a', 'l', 's', 'e'] then some (.bool false)
  else none

/-- The character that a single-letter escape stands for. -/
def escaped? (letter : Char) : Option Char :=
  match letter with
  | '"' => some '"'
  | '\\' => some '\\'
  | '/' => some '/'
  | 'b' => some '\x08'
  | 'f' => some '\x0c'
  | 'n' => some '\n'
  | 'r' => some '\r'
  | 't' => some '\t'
  | _ => none

/-- Where the scanner stands. Characters read so far are kept last first. -/
inductive Mode where
  /-- Between tokens. -/
  | between
  /-- Inside a numeral. -/
  | numeral (read : List Char)
  /-- Inside a word such as `true`. -/
  | word (read : List Char)
  /-- Inside a string. -/
  | string (read : List Char)
  /-- After a backslash in a string. -/
  | escape (read : List Char)
  /-- Among the four hexadecimal digits of an escape, `count` of them read with value `unit`. The
  first unit of a surrogate pair is kept in `high?`. -/
  | unit (read : List Char) (high? : Option Nat) (count unit : Nat)
  /-- After the first unit of a surrogate pair, before the backslash of the second. -/
  | pair (read : List Char) (high : Nat)
  /-- Between that backslash and the letter after it. -/
  | pairEscape (read : List Char) (high : Nat)

/-- The scanner: where it stands, and the tokens read so far, last first. -/
structure Scanner where
  mode : Mode
  tokens : List Token

def isNumeralChar (character : Char) : Bool :=
  isDecimalDigit character || character == '-' || character == '+' || character == '.' ||
    character == 'e' || character == 'E'

def isWordChar (character : Char) : Bool :=
  'a' ≤ character && character ≤ 'z'

/-- The step of the scanner between two tokens. -/
def Scanner.begin (tokens : List Token) (character : Char) : Option Scanner :=
  if isSpace character then some ⟨.between, tokens⟩
  else if isDecimalDigit character ∨ character = '-' then some ⟨.numeral [character], tokens⟩
  else if isWordChar character then some ⟨.word [character], tokens⟩
  else
    match character with
    | '[' => some ⟨.between, .beginArray :: tokens⟩
    | ']' => some ⟨.between, .endArray :: tokens⟩
    | '\x7b' => some ⟨.between, .beginObject :: tokens⟩
    | '\x7d' => some ⟨.between, .endObject :: tokens⟩
    | ',' => some ⟨.between, .comma :: tokens⟩
    | ':' => some ⟨.between, .colon :: tokens⟩
    | '"' => some ⟨.string [], tokens⟩
    | _ => none

/-- Ends a numeral or word that is being read, if there is one. Strings end with their quote. -/
def Scanner.settle (scanner : Scanner) : Option (List Token) :=
  match scanner.mode with
  | .between => some scanner.tokens
  | .numeral read => do
      let value ← numeral? read.reverse
      some (.number value :: scanner.tokens)
  | .word read => do
      let token ← word? read.reverse
      some (token :: scanner.tokens)
  | _ => none

/-- A code unit that opens a surrogate pair. -/
def isHighSurrogate (unit : Nat) : Bool :=
  0xD800 ≤ unit && unit ≤ 0xDBFF

/-- A code unit that closes a surrogate pair. -/
def isLowSurrogate (unit : Nat) : Bool :=
  0xDC00 ≤ unit && unit ≤ 0xDFFF

/-- The step after the fourth digit of an escape: a plain unit is a character, a first surrogate
waits for the second, and a surrogate alone is refused. -/
def endUnit (read : List Char) (high? : Option Nat) (unit : Nat) : Option Mode :=
  match high? with
  | none =>
      if isHighSurrogate unit then some (.pair read unit)
      else if isLowSurrogate unit then none
      else some (.string (Char.ofNat unit :: read))
  | some high =>
      if isLowSurrogate unit then
        some (.string (Char.ofNat (0x10000 + (high - 0xD800) * 0x400 + (unit - 0xDC00)) :: read))
      else none

/-- One step of the scanner. Control characters may not stand in strings. -/
def Scanner.step (scanner : Scanner) (character : Char) : Option Scanner :=
  let continueWith (mode : Mode) : Option Scanner := some ⟨mode, scanner.tokens⟩
  match scanner.mode with
  | .between => Scanner.begin scanner.tokens character
  | .numeral read =>
      if isNumeralChar character then continueWith (.numeral (character :: read))
      else do Scanner.begin (← scanner.settle) character
  | .word read =>
      if isWordChar character then continueWith (.word (character :: read))
      else do Scanner.begin (← scanner.settle) character
  | .string read =>
      if character = '"' then
        some ⟨.between, .string (String.ofList read.reverse) :: scanner.tokens⟩
      else if character = '\\' then continueWith (.escape read)
      else if character.toNat < 0x20 then none
      else continueWith (.string (character :: read))
  | .escape read =>
      if character = 'u' then continueWith (.unit read none 0 0)
      else do continueWith (.string ((← escaped? character) :: read))
  | .unit read high? count unit => do
      let digit ← digitOf? 16 character
      let extended := unit * 16 + digit
      if count < 3 then continueWith (.unit read high? (count + 1) extended)
      else continueWith (← endUnit read high? extended)
  | .pair read high => if character = '\\' then continueWith (.pairEscape read high) else none
  | .pairEscape read high =>
      if character = 'u' then continueWith (.unit read (some high) 0 0) else none

/-- The scanner after reading some characters. -/
def Scanner.run : Scanner → List Char → Option Scanner
  | scanner, [] => some scanner
  | scanner, character :: rest => do Scanner.run (← scanner.step character) rest

/-- The tokens of a text, if it consists of tokens. -/
def scan? (text : List Char) : Option (List Token) := do
  let scanner ← Scanner.run ⟨.between, []⟩ text
  let tokens ← scanner.settle
  some tokens.reverse

/-- Reading a text in two parts is reading it in one. -/
theorem Scanner.run_append (scanner : Scanner) (first second : List Char) :
    scanner.run (first ++ second) = (scanner.run first).bind (Scanner.run · second) := by
  induction first generalizing scanner with
  | nil => simp [Scanner.run]
  | cons character rest inductionHypothesis =>
      simp only [List.cons_append, Scanner.run, bind]
      cases scanner.step character with
      | none => rfl
      | some next => exact inductionHypothesis next

def hexDigit (value : Nat) : Char :=
  if value < 10 then Char.ofNat ('0'.toNat + value) else Char.ofNat ('a'.toNat + (value - 10))

/-- A character as it is written in a string: short escapes where there are any, the other control
characters by their code, and all else as it is. -/
def escape (character : Char) : List Char :=
  match character with
  | '"' => ['\\', '"']
  | '\\' => ['\\', '\\']
  | '\x08' => ['\\', 'b']
  | '\x0c' => ['\\', 'f']
  | '\n' => ['\\', 'n']
  | '\r' => ['\\', 'r']
  | '\t' => ['\\', 't']
  | other =>
      let code := other.toNat
      if code < 0x20 then ['\\', 'u', '0', '0', hexDigit (code / 16), hexDigit (code % 16)]
      else [other]

def Number.text : Number → List Char
  | .integer (.ofNat value) => (Nat.repr value).toList
  | .integer (.negSucc value) => '-' :: (Nat.repr (value + 1)).toList
  | .double value => (Decimal.jsonText value).toList

def Token.text : Token → List Char
  | .beginArray => ['[']
  | .endArray => [']']
  | .beginObject => ['\x7b']
  | .endObject => ['\x7d']
  | .comma => [',']
  | .colon => [':']
  | .null => ['n', 'u', 'l', 'l']
  | .bool true => ['t', 'r', 'u', 'e']
  | .bool false => ['f', 'a', 'l', 's', 'e']
  | .number value => value.text
  | .string value => '"' :: value.toList.flatMap escape ++ ['"']

end SyntaxQuery.Json
