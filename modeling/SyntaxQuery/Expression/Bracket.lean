import SyntaxQuery.Expression.Escape

/-!
Contract: the notation of bracketed character sets.

Owns: negation, ranges, nested sets, the classes written as `[:name:]`, and the operations between
sets, with the case rule applied where the flags ask for it.
Does not own: membership.
-/

namespace SyntaxQuery.Expression

/-- The ranges of the ASCII classes. -/
def asciiClass? (name : String) : Option (List (Nat × Nat)) :=
  match name with
  | "alnum" => some [(0x30, 0x39), (0x41, 0x5A), (0x61, 0x7A)]
  | "alpha" => some [(0x41, 0x5A), (0x61, 0x7A)]
  | "ascii" => some [(0x00, 0x7F)]
  | "blank" => some [(0x09, 0x09), (0x20, 0x20)]
  | "cntrl" => some [(0x00, 0x1F), (0x7F, 0x7F)]
  | "digit" => some [(0x30, 0x39)]
  | "graph" => some [(0x21, 0x7E)]
  | "lower" => some [(0x61, 0x7A)]
  | "print" => some [(0x20, 0x7E)]
  | "punct" => some [(0x21, 0x2F), (0x3A, 0x40), (0x5B, 0x60), (0x7B, 0x7E)]
  | "space" => some [(0x09, 0x0D), (0x20, 0x20)]
  | "upper" => some [(0x41, 0x5A)]
  | "word" => some [(0x30, 0x39), (0x41, 0x5A), (0x5F, 0x5F), (0x61, 0x7A)]
  | "xdigit" => some [(0x30, 0x39), (0x41, 0x46), (0x61, 0x66)]
  | _ => none

/-- Closes a set under case when letter case is ignored, and then negates it when asked. The order
matters: the complement of one letter, ignoring case, leaves out both its cases. -/
def foldAndNegate (flags : Flags) (negated : Bool) (set : CharSet) : CharSet :=
  let folded := if flags.ignoreCase then .folded flags.unicode set else set
  if negated then .complement folded else folded

/-- The set of a lettered class. -/
def namedSet (flags : Flags) (name : ClassName) (negated : Bool) : CharSet :=
  let set := CharSet.named name flags.unicode
  if negated then .complement set else set

/-- A class written as `[:name:]` or `[:^name:]`, from after its first bracket. -/
def asciiClassItem? (flags : Flags) (text : List Char) : Option (CharSet × List Char) :=
  match text with
  | ':' :: afterColon =>
      let (negated, named) :=
        match afterColon with
        | '^' :: rest => (true, rest)
        | rest => (false, rest)
      match named.dropWhile (· != ':') with
      | ':' :: ']' :: rest => do
          let ranges ← asciiClass? (String.ofList (named.takeWhile (· != ':')))
          let set := CharSet.union (ranges.map fun range => CharSet.range range.1 range.2)
          some (foldAndNegate flags negated set, rest)
      | _ => none
  | _ => none

/-- One item of a set, before it is known whether a range begins with it. -/
def setItem? (flags : Flags) : List Char → Option (Atom × List Char)
  | [] => none
  | '\\' :: rest => escape? flags rest
  | character :: rest => some (.literal character, rest)

/-- A character may be written in a set: any, unless Unicode is switched off. -/
def mayHold (flags : Flags) (character : Char) : Bool :=
  flags.unicode || character.toNat < 0x80

/-- The set of an item that stands alone; positions have no place in a set. -/
def Atom.set? (flags : Flags) : Atom → Option CharSet
  | .literal character => if mayHold flags character then some (.single character) else none
  | .named name negated => some (namedSet flags name negated)
  | .assertion _ => none

/-- An item or a range of a set. A hyphen before a bracket or another hyphen makes no range. -/
def setRange? (flags : Flags) (text : List Char) : Option (CharSet × List Char) := do
  let (first, rest) ← setItem? flags text
  match flags.skip rest with
  | [] => none
  | '-' :: afterHyphen =>
      match flags.skip afterHyphen with
      | [] => none
      | next :: others =>
          if next = ']' ∨ next = '-' then do
            let set ← first.set? flags
            some (set, '-' :: afterHyphen)
          else do
            let (last, rest) ← setItem? flags (next :: others)
            match first, last with
            | .literal low, .literal high =>
                if low ≤ high ∧ mayHold flags high then some (.range low.toNat high.toNat, rest) else none
            | _, _ => none
  | rest => do
      let set ← first.set? flags
      some (set, rest)

/-- An unfinished part of a bracketed set: a bracket that is still open, with what stands before it
in the set around it, or an operation that waits for its right side. -/
inductive SetFrame where
  | bracket (before : List CharSet) (negated : Bool)
  | operation (operation : SetOperation) (left : CharSet)

/-- The set of several items, which are kept last first. -/
def unionOf (items : List CharSet) : CharSet :=
  match items with
  | [item] => item
  | items => .union items.reverse

/-- Joins a finished operand to the operation that waits for it, if one does. -/
def closeOperation (flags : Flags) (frames : List SetFrame) (right : CharSet) :
    CharSet × List SetFrame :=
  let folded (set : CharSet) : CharSet :=
    if flags.ignoreCase then .folded flags.unicode set else set
  match frames with
  | .operation operation left :: outer => (.combine operation (folded left) (folded right), outer)
  | _ => (right, frames)

/-- The hyphens, and a first closing bracket, that stand for themselves at the start of a set. -/
def leadingLiterals (flags : Flags) : Nat → List CharSet → List Char → List CharSet × List Char
  | 0, items, text => (items, text)
  | fuel + 1, items, text =>
      match text with
      | '-' :: rest => leadingLiterals flags fuel (.single '-' :: items) (flags.skip rest)
      | ']' :: rest => if items = [] then ([.single ']'], flags.skip rest) else (items, text)
      | _ => (items, text)

/-- The start of a set after its bracket: whether it is negated, and its leading literals. -/
def openSet (flags : Flags) (text : List Char) : Bool × List CharSet × List Char :=
  let text := flags.skip text
  let (negated, text) :=
    match text with
    | '^' :: rest => (true, flags.skip rest)
    | text => (false, text)
  let (items, text) := leadingLiterals flags (text.length + 1) [] text
  (negated, items, text)

/-- Reads on in a set. `frames` holds the unfinished parts around the present one, innermost first,
and `items` the items of the present one, last first. Every round consumes a character, so the
number of characters suffices as `fuel`. -/
def setLoop? (flags : Flags) : Nat → List SetFrame → List CharSet → List Char →
    Option (CharSet × List Char)
  | 0, _, _, _ => none
  | fuel + 1, frames, items, text =>
      let operate (operation : SetOperation) (rest : List Char) : Option (CharSet × List Char) :=
        let (left, outer) := closeOperation flags frames (unionOf items)
        setLoop? flags fuel (.operation operation left :: outer) [] rest
      let nextItem (text : List Char) : Option (CharSet × List Char) := do
        let (item, rest) ← setRange? flags text
        setLoop? flags fuel frames (item :: items) rest
      match flags.skip text with
      | [] => none
      | '[' :: rest =>
          match asciiClassItem? flags rest with
          | some (item, rest) => setLoop? flags fuel frames (item :: items) rest
          | none =>
              let (negated, leading, rest) := openSet flags rest
              setLoop? flags fuel (.bracket items negated :: frames) leading rest
      | ']' :: rest =>
          match closeOperation flags frames (unionOf items) with
          | (set, .bracket before negated :: outer) =>
              let closed := foldAndNegate flags negated (.bracketed set)
              if outer.isEmpty then some (closed, rest)
              else setLoop? flags fuel outer (closed :: before) rest
          | _ => none
      | '&' :: '&' :: rest => operate .intersection rest
      | '-' :: '-' :: rest => operate .difference rest
      | '~' :: '~' :: rest => operate .symmetricDifference rest
      | text => nextItem text

/-- A set can stand in a pattern: without Unicode, only if it holds nothing but ASCII. -/
def isUsable (flags : Flags) (characters : CharSet) : Bool :=
  flags.unicode || !characters.contains 0x80

/-- A bracketed set, from after its first bracket. -/
def bracket? (flags : Flags) (text : List Char) : Option (CharSet × List Char) := do
  let (negated, leading, rest) := openSet flags text
  let (characters, rest) ← setLoop? flags (rest.length + 1) [.bracket [] negated] leading rest
  if isUsable flags characters then some (characters, rest) else none

end SyntaxQuery.Expression
