import SyntaxQuery.Expression.Bracket
import SyntaxQuery.Regex.Basic

/-!
Contract: pattern text to expressions, and the library of regular expressions that they make up.

Owns: groups and their flags, alternation, repetition, the limits on nesting and size, and the
library that reads patterns under options. Classes by Unicode property, as in `\p`, are not read.
Does not own: escapes and bracketed sets.
-/

namespace SyntaxQuery.Expression

/-- The set that a literal character stands for. -/
def literalSet (flags : Flags) (character : Char) : CharSet :=
  if flags.ignoreCase then .folded flags.unicode (.single character) else .single character

/-- The set of a dot, which leaves out line ends unless the flags say otherwise. -/
def dotSet (flags : Flags) : CharSet :=
  let lineEnds : List CharSet :=
    if flags.crlf then [.single '\n', .single '\r'] else [.single '\n']
  .complement (.union (if flags.dotAll then [] else lineEnds))

/-- The expression of one character of a set, if the set can stand in a pattern. -/
def oneOf? (flags : Flags) (characters : CharSet) : Option Expression :=
  if isUsable flags characters then some (.oneOf characters) else none

/-- The expression of a literal character. Without Unicode, only ASCII has letter case. -/
def literal? (flags : Flags) (character : Char) : Option Expression :=
  if flags.ignoreCase ∧ !mayHold flags character then none
  else some (.oneOf (literalSet flags character))

/-- The expression of a single escape or character. -/
def Atom.expression? (flags : Flags) : Atom → Option Expression
  | .literal character => literal? flags character
  | .named name negated => oneOf? flags (namedSet flags name negated)
  | .assertion condition => some (.assertion condition)

/-- A part of the sequence being read: an expression, or a directive that only sets flags and so
cannot be repeated. -/
inductive Item where
  | expression (inner : Expression)
  | directive

/-- The expression of a part. -/
def Item.inner : Item → Expression
  | .expression inner => inner
  | .directive => .empty

/-- The expression of a sequence whose parts are kept last first. -/
def sequenceOf (items : List Item) : Expression :=
  match items with
  | [] => .empty
  | [item] => item.inner
  | items => .concatenation (items.reverse.map Item.inner)

/-- The expression of finished branches, last first, and the sequence after them. -/
def branchesOf (branches : List Expression) (items : List Item) : Expression :=
  match branches with
  | [] => sequenceOf items
  | branches => .alternation (sequenceOf items :: branches).reverse

/-- What was being read outside a group that is still open. -/
structure Outer where
  flags : Flags
  branches : List Expression
  items : List Item

/-- A pattern as far as it has been read. Branches and items are kept last first, and the open
groups innermost first. -/
structure Partial where
  flags : Flags
  branches : List Expression
  items : List Item
  outer : List Outer
  names : List String

def isNameStart (character : Char) : Bool :=
  character == '_' || Text.isAlphabetic character.toNat

def isNameChar (character : Char) : Bool :=
  character == '_' || character == '.' || character == '[' || character == ']' ||
    Text.isAlphabetic character.toNat || Text.isNumeric character.toNat

/-- The name of a group, up to its closing angle bracket. -/
def groupName? (text : List Char) : Option (String × List Char) :=
  let name := text.takeWhile (· != '>')
  match text.dropWhile (· != '>'), name with
  | _ :: rest, first :: others =>
      if isNameStart first ∧ others.all isNameChar then some (String.ofList name, rest) else none
  | _, _ => none

/-- The flags with the one of a letter set to `value`. The letter for swapped greed changes nothing
that matching can show. -/
def Flags.assign? (flags : Flags) (letter : Char) (value : Bool) : Option Flags :=
  match letter with
  | 'i' => some { flags with ignoreCase := value }
  | 'm' => some { flags with multiLine := value }
  | 's' => some { flags with dotAll := value }
  | 'u' => some { flags with unicode := value }
  | 'R' => some { flags with crlf := value }
  | 'x' => some { flags with spaced := value }
  | 'U' => some flags
  | _ => none

/-- Reads flag letters up to the colon or parenthesis that ends them. No letter may repeat, and a
minus, at most one, must have a letter after it. The result tells whether there was any letter. -/
def flagLetters? (flags : Flags) (seen : List Char) : List Char → Option (Flags × Bool × List Char)
  | [] => none
  | character :: rest =>
      if character = ':' ∨ character = ')' then
        if seen.head? = some '-' then none else some (flags, !seen.isEmpty, character :: rest)
      else if seen.contains character then none
      else if character = '-' then flagLetters? flags ('-' :: seen) rest
      else do
        let changed ← flags.assign? character (!seen.contains '-')
        flagLetters? changed (character :: seen) rest

/-- Opens a group whose inside is read under the given flags. -/
def Partial.openGroup (state : Partial) (flags : Flags) : Partial :=
  { state with
    flags := flags, branches := [], items := [],
    outer := ⟨state.flags, state.branches, state.items⟩ :: state.outer }

/-- The step after an opening parenthesis: a group with or without a name, one that sets flags, or a
directive. Look-around is refused. -/
def Partial.group? (state : Partial) (text : List Char) : Option (Partial × List Char) :=
  let named (text : List Char) : Option (Partial × List Char) := do
    let (name, rest) ← groupName? text
    if state.names.contains name then none
    else some ({ state with names := name :: state.names }.openGroup state.flags, rest)
  match state.flags.skip text with
  | '?' :: '=' :: _ => none
  | '?' :: '!' :: _ => none
  | '?' :: '<' :: '=' :: _ => none
  | '?' :: '<' :: '!' :: _ => none
  | '?' :: 'P' :: '<' :: rest => named rest
  | '?' :: '<' :: rest => named rest
  | '?' :: rest => do
      let (flags, any, rest) ← flagLetters? state.flags [] rest
      match rest with
      | ':' :: rest => some (state.openGroup flags, rest)
      | _ :: rest =>
          if any then some ({ state with flags := flags, items := .directive :: state.items }, rest)
          else none
      | [] => none
  | rest => some (state.openGroup state.flags, rest)

/-- The step after a closing parenthesis. -/
def Partial.close? (state : Partial) : Option Partial :=
  match state.outer with
  | [] => none
  | surrounding :: outer =>
      let group := Expression.group (branchesOf state.branches state.items)
      some {
        flags := surrounding.flags, branches := surrounding.branches,
        items := .expression group :: surrounding.items, outer := outer, names := state.names }

/-- Repeats the part just read, which must be an expression. -/
def Partial.repeat? (state : Partial) (least : Nat) (most? : Option Nat) : Option Partial :=
  match state.items with
  | .expression inner :: items =>
      some { state with items := .expression (.repetition inner least most?) :: items }
  | _ => none

/-- Drops the question mark that makes a repetition lazy, which no test can show. -/
def dropLazy (text : List Char) : List Char :=
  match text with
  | '?' :: rest => rest
  | rest => rest

/-- The digits of a repetition count; with spacing, digits may be apart. `fuel` bounds them. -/
def countDigits (flags : Flags) : Nat → List Char → List Char × List Char
  | 0, text => ([], text)
  | fuel + 1, text =>
      match text with
      | character :: rest =>
          if isDecimalDigit character then
            let (digits, rest) := countDigits flags fuel (flags.skip rest)
            (character :: digits, rest)
          else ([], text)
      | [] => ([], [])

/-- A repetition count with white space around it: none if there are no digits, and `some none` if
the number is too large to be a count. -/
def count (flags : Flags) (text : List Char) : Option (Option Nat) × List Char :=
  let text := text.dropWhile Text.isBlank
  let (digits, rest) := countDigits flags (text.length + 1) text
  let rest := if (rest.dropWhile Text.isBlank) = rest then rest
    else flags.skip (rest.dropWhile Text.isBlank)
  let value := natOfDigits digits
  (if digits = [] then none else some (if value < 1 <<< 32 then some value else none), rest)

/-- The bounds of a counted repetition, from after its opening brace to after its closing one. -/
def bounds? (flags : Flags) (text : List Char) : Option (Nat × Option Nat × List Char) := do
  let (least?, rest) := count flags (flags.skip text)
  let least ← least?.join
  match rest with
  | '\x7d' :: rest => some (least, some least, rest)
  | ',' :: rest =>
      match flags.skip rest with
      | '\x7d' :: rest => some (least, none, rest)
      | rest => do
          let (most?, rest) := count flags rest
          let most ← most?.join
          match rest with
          | '\x7d' :: rest => if least ≤ most then some (least, some most, rest) else none
          | _ => none
  | _ => none

/-- Adds an expression to the sequence being read. -/
def Partial.add (state : Partial) (inner : Expression) : Partial :=
  { state with items := .expression inner :: state.items }

/-- One step of reading a pattern, at a character that counts. -/
def Partial.step? (state : Partial) (character : Char) (rest : List Char) :
    Option (Partial × List Char) :=
  match character with
  | '(' => state.group? rest
  | ')' => do some (← state.close?, rest)
  | '|' =>
      let branch := sequenceOf state.items
      some ({ state with branches := branch :: state.branches, items := [] }, rest)
  | '[' => do
      let (characters, rest) ← bracket? state.flags rest
      some (state.add (.oneOf characters), rest)
  | '?' => do some (← state.repeat? 0 (some 1), dropLazy rest)
  | '*' => do some (← state.repeat? 0 none, dropLazy rest)
  | '+' => do some (← state.repeat? 1 none, dropLazy rest)
  | '\x7b' => do
      let (least, most?, rest) ← bounds? state.flags rest
      some (← state.repeat? least most?, dropLazy (state.flags.skip rest))
  | '\\' => do
      let (atom, rest) ← escape? state.flags rest
      some (state.add (← atom.expression? state.flags), rest)
  | '.' => do some (state.add (← oneOf? state.flags (dotSet state.flags)), rest)
  | '^' =>
      let condition :=
        if state.flags.multiLine then Assertion.lineStart state.flags.crlf else .textStart
      some (state.add (.assertion condition), rest)
  | '$' =>
      let condition :=
        if state.flags.multiLine then Assertion.lineEnd state.flags.crlf else .textEnd
      some (state.add (.assertion condition), rest)
  | other => do some (state.add (← literal? state.flags other), rest)

/-- Reads a pattern to its end. Every round consumes a character, so the number of characters
suffices as `fuel`. -/
def Partial.run? : Nat → Partial → List Char → Option Partial
  | 0, _, _ => none
  | fuel + 1, state, text =>
      match state.flags.skip text with
      | [] => some state
      | character :: rest => do
          let (next, rest) ← state.step? character rest
          Partial.run? fuel next rest

/-- The expression of a pattern read under the given flags, before any limit is checked. -/
def parse? (flags : Flags) (pattern : List Char) : Option Expression := do
  let state ← Partial.run? (pattern.length + 1) ⟨flags, [], [], [], []⟩ pattern
  if state.outer.isEmpty then some (branchesOf state.branches state.items) else none

/-- How deeply expressions may nest. -/
def nestingLimit : Nat := 250

/-- How many states an automaton may have: ten mebibytes at thirty-two bytes a state. -/
def stateLimit : Nat := 10 * (1 <<< 20) / 32

/-- The wording for a pattern that does not follow the notation or nests too deeply, of which only
the heading is given. -/
def malformedMessage : String := "regex parse error:"

/-- The wording for a pattern whose automaton would be too large. -/
def tooLargeMessage : String := "Compiled regex exceeds size limit of 10485760 bytes."

/-- The flags that options set at the start of a pattern. -/
def flagsOf (options : Regex.Options) : Flags :=
  { Flags.default with
    ignoreCase := options.ignoreCase
    multiLine := options.multiLine
    dotAll := options.dotAll }

/-- Builds patterns as expressions, which match by the sets of positions they lead to. -/
def build : Regex.Builder := fun source options =>
  match parse? (flagsOf options) source.toList with
  | none => .error malformedMessage
  | some expression =>
      if nestingLimit < expression.depth then .error malformedMessage
      else if stateLimit < expression.stateCount then .error tooLargeMessage
      else .ok ⟨expression.isMatch⟩

end SyntaxQuery.Expression
