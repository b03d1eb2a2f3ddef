import SyntaxQuery.Decimal.Numeral
import SyntaxQuery.Toml.Basic

/-!
Contract: the scalars of TOML text that are written without quotes.

Owns: integers in four bases, floats, dates and times, and the checks on their ranges.
Does not own: where such a scalar may stand.
-/

namespace SyntaxQuery.Toml

/-- The digits of a numeral in which single underscores may stand between digits. -/
def separated? (isDigit : Char → Bool) : List Char → Option (List Char)
  | [] => none
  | [digit] => if isDigit digit then some [digit] else none
  | digit :: '_' :: rest =>
      if isDigit digit then (separated? isDigit rest).map (digit :: ·) else none
  | digit :: rest => if isDigit digit then (separated? isDigit rest).map (digit :: ·) else none

/-- The digits of a whole number without superfluous zeros in front. -/
def whole? (text : List Char) : Option (List Char) := do
  let digits ← separated? isDecimalDigit text
  match digits with
  | '0' :: _ :: _ => none
  | digits => some digits

/-- An integer fits into sixty-four bits with sign. -/
def fits (negative : Bool) (magnitude : Nat) : Bool :=
  if negative then magnitude ≤ 1 <<< 63 else magnitude < 1 <<< 63

/-- A text is an integer: signed decimal digits, or unsigned digits in a base. -/
def isInteger (text : List Char) : Bool :=
  let inBase (base : Nat) (digits : List Char) : Bool :=
    match separated? (fun digit => (digitOf? base digit).isSome) digits with
    | some digits => (natOfDigits? base digits).any (fits false)
    | none => false
  match text with
  | '0' :: 'x' :: digits => inBase 16 digits
  | '0' :: 'o' :: digits => inBase 8 digits
  | '0' :: 'b' :: digits => inBase 2 digits
  | text =>
      let (negative, unsigned) := Numeral.takeSign text
      (whole? unsigned).any fun digits => fits negative (natOfDigits digits)

/-- A text is a float: a whole number with a fraction, an exponent or both, or a spelled-out infinity
or what is not a number. It must not be too large for a double. -/
def isFloat (text : List Char) : Bool :=
  let (_, unsigned) := Numeral.takeSign text
  if unsigned = ['i', 'n', 'f'] ∨ unsigned = ['n', 'a', 'n'] then true
  else
    let isMark (character : Char) : Bool := character == 'e' || character == 'E'
    let mantissa := unsigned.takeWhile (!isMark ·)
    let exponent := unsigned.dropWhile (!isMark ·)
    let wholePart := mantissa.takeWhile (· != '.')
    let fraction := mantissa.dropWhile (· != '.')
    let fractionDigits? : Option (List Char) :=
      match fraction with
      | [] => some []
      | _ :: digits => separated? isDecimalDigit digits
    let exponentValue? : Option Int :=
      match exponent with
      | [] => some 0
      | _ :: digits =>
          let (negative, digits) := Numeral.takeSign digits
          (separated? isDecimalDigit digits).map fun digits =>
            if negative then -Int.ofNat (natOfDigits digits) else Int.ofNat (natOfDigits digits)
    match whole? wholePart, fractionDigits?, exponentValue? with
    | some digits, some fractionDigits, some exponentValue =>
        let decimal : Decimal :=
          ⟨false, natOfDigits (digits ++ fractionDigits), exponentValue - fractionDigits.length⟩
        !(fraction.isEmpty && exponent.isEmpty) && !decimal.toFloat.isInf
    | _, _, _ => false

/-- A fixed number of decimal digits as a number, and the text after them. -/
def digits? : Nat → Nat → List Char → Option (Nat × List Char)
  | 0, value, text => some (value, text)
  | count + 1, value, digit :: rest =>
      if isDecimalDigit digit then digits? count (value * 10 + digitValue digit) rest else none
  | _ + 1, _, [] => none

def daysInMonth (year month : Nat) : Nat :=
  if month = 2 then
    if year % 4 = 0 ∧ (year % 100 ≠ 0 ∨ year % 400 = 0) then 29 else 28
  else if month = 4 ∨ month = 6 ∨ month = 9 ∨ month = 11 then 30
  else 31

def date? (text : List Char) : Option (List Char) := do
  let (year, rest) ← digits? 4 0 text
  match rest with
  | '-' :: rest => do
      let (month, rest) ← digits? 2 0 rest
      match rest with
      | '-' :: rest => do
          let (day, rest) ← digits? 2 0 rest
          if 1 ≤ month ∧ month ≤ 12 ∧ 1 ≤ day ∧ day ≤ daysInMonth year month then some rest
          else none
      | _ => none
  | _ => none

/-- Reads the fraction of a second, if there is one. -/
def secondFraction? (text : List Char) : Option (List Char) :=
  match text with
  | '.' :: rest =>
      let after := rest.dropWhile isDecimalDigit
      if after.length < rest.length then some after else none
  | text => some text

/-- Reads a time of day; the seconds may be left out. -/
def time? (text : List Char) : Option (List Char) := do
  let (hour, rest) ← digits? 2 0 text
  match rest with
  | ':' :: rest => do
      let (minute, rest) ← digits? 2 0 rest
      if 23 < hour ∨ 59 < minute then none
      else
        match rest with
        | ':' :: rest => do
            let (second, rest) ← digits? 2 0 rest
            if 60 < second then none else secondFraction? rest
        | rest => some rest
  | _ => none

/-- The rest of a text is empty or the offset of a time zone. -/
def isOffset (text : List Char) : Bool :=
  let hours (text : List Char) : Bool :=
    match digits? 2 0 text with
    | some (hour, ':' :: rest) =>
        match digits? 2 0 rest with
        | some (minute, []) => hour ≤ 23 && minute ≤ 59
        | _ => false
    | _ => false
  match text with
  | [] => true
  | ['Z'] => true
  | ['z'] => true
  | '+' :: rest => hours rest
  | '-' :: rest => hours rest
  | _ => false

/-- A text is a date, a time, or both with a letter or a blank between and an offset or none. -/
def isMoment (text : List Char) : Bool :=
  match date? text with
  | some [] => true
  | some (separator :: rest) =>
      (separator == 'T' || separator == 't' || separator == ' ') && (time? rest).any isOffset
  | none => (time? text).any List.isEmpty

def scalar? (text : List Char) : Option Toml :=
  if text = ['t', 'r', 'u', 'e'] then some (.boolean true)
  else if text = ['f', 'a', 'l', 's', 'e'] then some (.boolean false)
  else if isInteger text ∨ isFloat text then some .number
  else if isMoment text then some .moment
  else none

/-- A character that may stand in a scalar without quotes. -/
def isScalarChar (character : Char) : Bool :=
  character.isAlphanum || character == '_' || character == '+' || character == '-' ||
    character == '.' || character == ':'

/-- The characters of a scalar, and the text after it. A date goes on over a single blank when a time
follows. -/
def takeScalar (text : List Char) : List Char × List Char :=
  let first := text.takeWhile isScalarChar
  let rest := text.dropWhile isScalarChar
  match date? first, rest with
  | some [], ' ' :: digit :: others =>
      if isDecimalDigit digit then
        let time := (digit :: others).takeWhile isScalarChar
        (first ++ ' ' :: time, (digit :: others).dropWhile isScalarChar)
      else (first, rest)
  | _, _ => (first, rest)

end SyntaxQuery.Toml
