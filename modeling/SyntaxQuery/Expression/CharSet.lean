import SyntaxQuery.Text.Blank
import SyntaxQuery.Text.Class

/-!
Contract: sets of characters as patterns write them.

Owns: ranges, named classes, unions, set operations, complements and closure under case, with the
membership test of each.
Does not own: how a set is spelled.
-/

namespace SyntaxQuery

/-- The classes with a letter of their own: `\d`, `\s` and `\w`. -/
inductive ClassName where
  | digit
  | space
  | word
deriving DecidableEq, Repr

/-- Membership in a lettered class, among all characters or among the ASCII ones. -/
def ClassName.contains (name : ClassName) (unicode : Bool) (code : Nat) : Bool :=
  match name with
  | .digit => if unicode then Text.isDecimal code else 0x30 ≤ code && code ≤ 0x39
  | .space =>
      if unicode then Text.isBlank (Char.ofNat code) else (9 ≤ code && code ≤ 13) || code == 0x20
  | .word => if unicode then Text.isWord code else Text.isAsciiWord code

/-- The operations between the parts of a bracketed set. -/
inductive SetOperation where
  | intersection
  | difference
  | symmetricDifference
deriving DecidableEq, Repr

/-- Membership in the result of an operation. -/
def SetOperation.apply (operation : SetOperation) (left right : Bool) : Bool :=
  match operation with
  | .intersection => left && right
  | .difference => left && !right
  | .symmetricDifference => left != right

inductive CharSet where
  /-- The characters from `first` to `last`. -/
  | range (first last : Nat)
  /-- A lettered class. -/
  | named (name : ClassName) (unicode : Bool)
  /-- The characters of any of the parts. -/
  | union (parts : List CharSet)
  /-- The result of an operation between two sets. -/
  | combine (operation : SetOperation) (left right : CharSet)
  /-- All characters outside a set. -/
  | complement (inner : CharSet)
  /-- The characters that agree up to case with a member; without `unicode`, ASCII letters only. -/
  | folded (unicode : Bool) (inner : CharSet)
  /-- A set written in brackets of its own. -/
  | bracketed (inner : CharSet)
deriving Repr

namespace CharSet

def single (character : Char) : CharSet :=
  .range character.toNat character.toNat

/-- The ASCII letters that agree with a code point up to case, and the code point itself. -/
def asciiOrbit (code : Nat) : List Nat :=
  if 0x41 ≤ code ∧ code ≤ 0x5A then [code, code + 32]
  else if 0x61 ≤ code ∧ code ≤ 0x7A then [code, code - 32]
  else [code]

mutual

/-- Membership of a code point. -/
def contains : CharSet → Nat → Bool
  | .range first last, code => first ≤ code && code ≤ last
  | .named name unicode, code => name.contains unicode code
  | .union parts, code => anyContains parts code
  | .combine operation left right, code => operation.apply (contains left code) (contains right code)
  | .complement inner, code => !contains inner code
  | .folded unicode inner, code =>
      (if unicode then Text.caseOrbit code else asciiOrbit code).any fun other =>
        contains inner other
  | .bracketed inner, code => contains inner code

/-- Membership of a code point in one of several sets. -/
def anyContains : List CharSet → Nat → Bool
  | [], _ => false
  | part :: rest, code => contains part code || anyContains rest code

end

mutual

/-- How deeply brackets, unions and operations are nested. -/
def depth : CharSet → Nat
  | .range _ _ => 0
  | .named _ _ => 0
  | .union parts => (if parts.length < 2 then 0 else 1) + partsDepth parts
  | .combine _ left right => 1 + max (depth left) (depth right)
  | .complement inner => depth inner
  | .folded _ inner => depth inner
  | .bracketed inner => 1 + depth inner

/-- The depth of the deepest of several sets. -/
def partsDepth : List CharSet → Nat
  | [] => 0
  | part :: rest => max (depth part) (partsDepth rest)

end

end CharSet

end SyntaxQuery
