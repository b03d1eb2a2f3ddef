import SyntaxQuery.Text.Segments
import SyntaxQuery.Tree.Node

/-!
Contract: dotted paths through the fields of a tree.

Owns: the value at the end of a path, and whether a path leads from one record to another.
Does not own: how paths are split.
-/

namespace SyntaxQuery

variable {ν : Type} [SyntaxNode ν]

/-- The index that a segment spells: decimal digits, with a plus in front or not. -/
def indexOfSegment? (segment : String) : Option Nat :=
  match segment.toList with
  | '+' :: digits => if digits = [] then none else natOfDigits? 10 digits
  | digits => if digits = [] then none else natOfDigits? 10 digits

/-- One step of a path. Records have fields, lists have elements and a length, strings have a length
in characters, and nothing else leads anywhere. -/
def Value.step (value : Value ν) (segment : String) : Value ν :=
  match value with
  | .node held => SyntaxNode.field held segment
  | .object held => SyntaxNode.field held segment
  | .list items =>
      if segment = "length" then .number (floatOfInt items.length)
      else ((indexOfSegment? segment).bind fun index => items[index]?).getD .absent
  | .string text => if segment = "length" then .number (floatOfInt text.length) else .absent
  | _ => .absent

/-- The value at the end of some segments. What is absent or null stays what it is. -/
def Value.follow : Value ν → List String → Value ν
  | value, [] => value
  | value, segment :: rest =>
      if value.isPresent then (value.step segment).follow rest else value

/-- The value at a dotted path from a node. -/
def resolve (node : ν) (path : String) : Value ν :=
  (Value.node node).follow (Text.segments path)

/-- Whether some segments lead from one of several values to a node, given whether the rest of them
leads there from a single value. -/
def leadsFromAny (leads : Value ν → Bool) : Value ν → Bool
  | .list items => items.any leads
  | value => leads value

/-- Whether segments lead from a value to a node. Where a field holds a list, any element of it may
be followed; a list inside a list is not entered. -/
def leadsTo (node : ν) : List String → Value ν → Bool
  | [], value => value.record?.any fun record => SyntaxNode.same record node
  | segment :: rest, value =>
      match value.record? with
      | none => false
      | some record => leadsFromAny (leadsTo node rest) (SyntaxNode.field record segment)

end SyntaxQuery
