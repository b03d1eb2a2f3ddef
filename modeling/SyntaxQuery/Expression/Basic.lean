import SyntaxQuery.Expression.CharSet

/-!
Contract: regular expressions and the texts they match.

Owns:
- the expressions, in which letter case and line rules are already decided;
- matching as a map from sets of start positions to sets of end positions;
- the size that a compiled expression would have.

Does not own: the notation of patterns.
-/

namespace SyntaxQuery

/-- The conditions on the word characters before and after a position. -/
inductive WordEdge where
  | boundary
  | interior
  | start
  | finish
  | startHalf
  | finishHalf
deriving DecidableEq, Repr

/-- Whether the condition holds, given whether a word character stands before and after. -/
def WordEdge.holds (edge : WordEdge) (before after : Bool) : Bool :=
  match edge with
  | .boundary => before != after
  | .interior => before == after
  | .start => !before && after
  | .finish => before && !after
  | .startHalf => !before
  | .finishHalf => !after

/-- The conditions on a position that consume nothing. -/
inductive Assertion where
  | textStart
  | textEnd
  /-- The start of a line; with `crlf`, carriage returns end lines too. -/
  | lineStart (crlf : Bool)
  | lineEnd (crlf : Bool)
  | word (edge : WordEdge) (unicode : Bool)
deriving DecidableEq, Repr

/-- Whether a condition holds between the characters before and after a position. -/
def Assertion.holds (assertion : Assertion) (before? after? : Option Char) : Bool :=
  match assertion with
  | .textStart => before?.isNone
  | .textEnd => after?.isNone
  | .lineStart false => before?.isNone || before? == some '\n'
  | .lineEnd false => after?.isNone || after? == some '\n'
  | .lineStart true =>
      before?.isNone || before? == some '\n' || (before? == some '\r' && after? != some '\n')
  | .lineEnd true =>
      after?.isNone || after? == some '\r' || (after? == some '\n' && before? != some '\r')
  | .word edge unicode =>
      let isWord (character? : Option Char) : Bool :=
        character?.any fun character => ClassName.word.contains unicode character.toNat
      edge.holds (isWord before?) (isWord after?)

inductive Expression where
  /-- The empty text. -/
  | empty
  /-- One character of a set. -/
  | oneOf (characters : CharSet)
  | assertion (condition : Assertion)
  | concatenation (parts : List Expression)
  | alternation (branches : List Expression)
  /-- At least `least` and at most `most?` repetitions. -/
  | repetition (inner : Expression) (least : Nat) (most? : Option Nat)
  | group (inner : Expression)
deriving Repr

namespace Expression

/-- The union of two ascending lists of positions; `fuel` bounds their lengths together. -/
def mergeWith : Nat → List Nat → List Nat → List Nat
  | 0, first, second => first ++ second
  | _ + 1, [], second => second
  | _ + 1, first, [] => first
  | fuel + 1, left :: first, right :: second =>
      if left < right then left :: mergeWith fuel first (right :: second)
      else if right < left then right :: mergeWith fuel (left :: first) second
      else left :: mergeWith fuel first second

/-- The union of two ascending lists of positions. -/
def merge (first second : List Nat) : List Nat :=
  mergeWith (first.length + second.length) first second

/-- Applies a step a given number of times, stopping where nothing is left or nothing changes. -/
def iterate (step : List Nat → List Nat) : Nat → List Nat → List Nat
  | 0, positions => positions
  | count + 1, positions =>
      let next := step positions
      if next = [] ∨ next = positions then next else iterate step count next

/-- The positions reached from `frontier` by at most `rounds` steps, together with those already
`seen`. A position seen before is not followed again. -/
def closure (step : List Nat → List Nat) : Nat → List Nat → List Nat → List Nat
  | 0, seen, _ => seen
  | rounds + 1, seen, frontier =>
      let next := (step frontier).filter fun position => !seen.contains position
      if next = [] then seen else closure step rounds (merge seen next) next

mutual

/-- The positions at which a match that starts at one of `starts` can end, in ascending order. -/
def ends (text : Array Char) : Expression → List Nat → List Nat
  | .empty, starts => starts
  | .oneOf characters, starts =>
      starts.filterMap fun position =>
        match text[position]? with
        | some character => if characters.contains character.toNat then some (position + 1) else none
        | none => none
  | .assertion condition, starts =>
      starts.filter fun position =>
        condition.holds (if position = 0 then none else text[position - 1]?) text[position]?
  | .concatenation parts, starts => endsInTurn text parts starts
  | .alternation branches, starts => endsOfAny text branches starts
  | .repetition inner least most?, starts =>
      let reached := iterate (ends text inner) least starts
      let rounds :=
        match most? with
        | none => text.size + 1
        | some most => min (most - least) (text.size + 1)
      closure (ends text inner) rounds reached reached
  | .group inner, starts => ends text inner starts

/-- The ends of matches of several parts one after the other. -/
def endsInTurn (text : Array Char) : List Expression → List Nat → List Nat
  | [], starts => starts
  | part :: rest, starts => endsInTurn text rest (ends text part starts)

/-- The ends of matches of any of several branches. -/
def endsOfAny (text : Array Char) : List Expression → List Nat → List Nat
  | [], _ => []
  | branch :: rest, starts => merge (ends text branch starts) (endsOfAny text rest starts)

end

/-- Whether an expression matches somewhere in a text. -/
def isMatch (expression : Expression) (text : String) : Bool :=
  let characters := text.toList.toArray
  expression.ends characters (List.range (characters.size + 1)) != []

mutual

/-- How deeply an expression is nested. Characters, assertions and the empty expression have no
depth of their own. -/
def depth : Expression → Nat
  | .empty => 0
  | .oneOf characters => characters.depth
  | .assertion _ => 0
  | .concatenation parts => 1 + partsDepth parts
  | .alternation branches => 1 + partsDepth branches
  | .repetition inner _ _ => 1 + depth inner
  | .group inner => 1 + depth inner

/-- The depth of the deepest of several expressions. -/
def partsDepth : List Expression → Nat
  | [] => 0
  | part :: rest => max (depth part) (partsDepth rest)

end

mutual

/-- The number of states of an automaton for an expression, in which every repetition is written
out. -/
def stateCount : Expression → Nat
  | .empty => 1
  | .oneOf _ => 1
  | .assertion _ => 1
  | .concatenation parts => partsStateCount parts
  | .alternation branches => 1 + partsStateCount branches
  | .repetition inner least none => stateCount inner * max least 1 + 1
  | .repetition inner least (some most) => stateCount inner * max least most + (most - least)
  | .group inner => 2 + stateCount inner

/-- The number of states for several expressions. -/
def partsStateCount : List Expression → Nat
  | [] => 0
  | part :: rest => stateCount part + partsStateCount rest

end

end Expression

end SyntaxQuery
