import SyntaxQuery.Query.Path
import SyntaxQuery.Selector.Basic
import SyntaxQuery.Text.Case

/-!
Contract: whether a node satisfies a selector, given its ancestors.

Owns:
- comparisons of attributes;
- the siblings, neighbours and places of a node in the lists that hold it;
- the test of a node by recursion on the selector.

Does not own: which nodes are tested, and which are reported.
-/

namespace SyntaxQuery

variable {ν : Type} [SyntaxNode ν]

/-- Whether an order comparison holds, given the order of its sides. Without an order none holds. -/
def Operator.holdsFor (operator : Operator) (order? : Option Ordering) : Bool :=
  match operator, order? with
  | .less, some .lt => true
  | .lessOrEqual, some .lt => true
  | .lessOrEqual, some .eq => true
  | .greater, some .gt => true
  | .greaterOrEqual, some .gt => true
  | .greaterOrEqual, some .eq => true
  | _, _ => false

/-- Whether a value equals an operand: a pattern matches its text, a literal has its text, or its
type has the given name. -/
def Operand.equals (operand : Operand) (found : Value ν) : Bool :=
  match operand with
  | .pattern compiled => compiled.regex.isMatch found.text
  | .literal value => value.toPrimitive.text == found.text
  | .typeName name => name == found.typeName

/-- Whether a value compares with an operand as an operator says. -/
def Operator.compares (operator : Operator) (found : Value ν) (operand : Operand) : Bool :=
  match operator with
  | .equal => operand.equals found
  | .notEqual => !operand.equals found
  | order =>
      match operand.raw? with
      | none => false
      | some raw => order.holdsFor (found.toPrimitive.compare raw)

/-- The lists that the parent's child fields hold, in schema order. There are none without a parent,
and none of a parent that the schema refuses. -/
def parentLists (schema : Schema ν) : List ν → List (List (Value ν))
  | [] => []
  | parent :: _ =>
      match schema parent with
      | .error _ => []
      | .ok fields => fields.filterMap fun name => (SyntaxNode.field parent name).list?

/-- Whether a list element is a given node. -/
def holdsNode (node : ν) (item : Value ν) : Bool :=
  item.node?.any fun held => SyntaxNode.same held node

/-- The first place of a node in a list. -/
def placeOf? (node : ν) (items : List (Value ν)) : Option Nat :=
  items.findIdx? (holdsNode node)

/-- Whether some other node in a list that holds children of the parent is accepted. -/
def hasSibling (schema : Schema ν) (accepts : ν → Bool) (node : ν) (ancestry : List ν) : Bool :=
  (parentLists schema ancestry).any fun items =>
    items.any fun item =>
      item.node?.any fun other => !SyntaxNode.same other node && accepts other

/-- Whether the element right before or right after a node, in a list that holds it, is an accepted
node. Elements that are no nodes keep their places. -/
def hasNeighbour (schema : Schema ν) (accepts : ν → Bool) (node : ν) (ancestry : List ν) : Bool :=
  let acceptedAt (items : List (Value ν)) (index : Nat) : Bool :=
    (items[index]?.bind Value.node?).any accepts
  (parentLists schema ancestry).any fun items =>
    match placeOf? node items with
    | none => false
    | some place =>
        (0 < place && acceptedAt items (place - 1)) || acceptedAt items (place + 1)

/-- Whether a node stands, in a list that holds it, at the place that `placeIn` names for the list's
length. -/
def standsAt (schema : Schema ν) (placeIn : Nat → Option Nat) (node : ν) (ancestry : List ν) : Bool :=
  (parentLists schema ancestry).any fun items =>
    match placeOf? node items with
    | none => false
    | some place => placeIn items.length == some place

/-- The difference of two numbers, if it is not negative. -/
def difference? (whole amount : Nat) : Option Nat :=
  if amount ≤ whole then some (whole - amount) else none

/-- The place, counted from zero, of the `index`-th element counted from one at an end of a list. -/
def Edge.place? (edge : Edge) (index length : Nat) : Option Nat :=
  match edge with
  | .first => difference? index 1
  | .last => difference? length index

def NodeTest.holds (test : NodeTest) (node : ν) (ancestry : List ν) : Bool :=
  match test with
  | .wildcard => true
  | .identifier value => Text.lowercase value == Text.lowercase (SyntaxNode.kind node)
  | .field path =>
      let segments := Text.segments path
      match ancestry[segments.length - 1]? with
      | none => false
      | some ancestor => leadsTo node segments (.node ancestor)
  | .attribute path operator? operand? =>
      let found := resolve node path
      match operator?, operand? with
      | none, _ => found.isPresent
      | some operator, some operand => operator.compares found operand
      | some _, none => false

/-- Whether a test holds for the parent, with the ancestors above it. -/
def parentSatisfies (test : ν → List ν → Bool) : List ν → Bool
  | [] => false
  | parent :: above => test parent above

/-- Whether a test holds for some ancestor, with the ancestors above it. -/
def someAncestorSatisfies (test : ν → List ν → Bool) : List ν → Bool
  | [] => false
  | ancestor :: above => test ancestor above || someAncestorSatisfies test above

/-- Whether two tests hold in a combinator's relation, `left` first. For siblings and neighbours
either test may be the one that the node itself passes, and the other node is tested with the node's
own ancestors. -/
def Combinator.holds (combinator : Combinator) (schema : Schema ν) (left right : ν → List ν → Bool)
    (node : ν) (ancestry : List ν) : Bool :=
  match combinator with
  | .child => right node ancestry && parentSatisfies left ancestry
  | .descendant => right node ancestry && someAncestorSatisfies left ancestry
  | .sibling =>
      (right node ancestry && hasSibling schema (left · ancestry) node ancestry) ||
        (left node ancestry && hasSibling schema (right · ancestry) node ancestry)
  | .adjacent =>
      (right node ancestry && hasNeighbour schema (left · ancestry) node ancestry) ||
        (left node ancestry && hasNeighbour schema (right · ancestry) node ancestry)

namespace Selector

mutual

/-- Whether a selector matches a node with the given ancestors, the parent first. -/
def test (schema : Schema ν) : Selector → ν → List ν → Bool
  | .single test _, node, ancestry => test.holds node ancestry
  | .group .anyOf members _, node, ancestry => testAny schema members node ancestry
  | .group .allOf members _, node, ancestry => testAll schema members node ancestry
  | .group .noneOf members _, node, ancestry => !testAny schema members node ancestry
  | .relation combinator left right _, node, ancestry =>
      combinator.holds schema (test schema left) (test schema right) node ancestry
  | .place edge index none _, node, ancestry =>
      standsAt schema (edge.place? index) node ancestry
  | .place edge index (some inner) _, node, ancestry =>
      test schema inner node ancestry && standsAt schema (edge.place? index) node ancestry

/-- Whether some of several selectors matches. -/
def testAny (schema : Schema ν) : List Selector → ν → List ν → Bool
  | [], _, _ => false
  | first :: rest, node, ancestry =>
      test schema first node ancestry || testAny schema rest node ancestry

/-- Whether all of several selectors match. -/
def testAll (schema : Schema ν) : List Selector → ν → List ν → Bool
  | [], _, _ => true
  | first :: rest, node, ancestry =>
      test schema first node ancestry && testAll schema rest node ancestry

end

/-- Whether a selector that may be missing matches; a missing one matches everything. -/
def testOptional (schema : Schema ν) (selector? : Option Selector) (node : ν) (ancestry : List ν) :
    Bool :=
  match selector? with
  | none => true
  | some selector => selector.test schema node ancestry

end Selector

end SyntaxQuery
