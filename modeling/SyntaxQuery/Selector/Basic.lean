import SyntaxQuery.Regex.Basic
import SyntaxQuery.Tree.Value

/-!
Contract: selectors, the queries that nodes of a syntax tree satisfy or not.

Owns:
- the selectors and the shapes they have, with the tag of each shape;
- the operators and operands of attribute tests;
- the equality of selectors.

Does not own: what a selector means, or how it is written.
-/

namespace SyntaxQuery

/-- The comparison that an attribute test makes. -/
inductive Operator where
  | equal
  | notEqual
  | less
  | lessOrEqual
  | greater
  | greaterOrEqual
deriving DecidableEq, Repr

namespace Operator

def text : Operator → String
  | .equal => "="
  | .notEqual => "!="
  | .less => "<"
  | .lessOrEqual => "<="
  | .greater => ">"
  | .greaterOrEqual => ">="

def all : List Operator :=
  [.equal, .notEqual, .less, .lessOrEqual, .greater, .greaterOrEqual]

def ofText? (written : String) : Option Operator :=
  all.find? fun operator => operator.text == written

/-- The text of an operator reads back as that operator. -/
theorem ofText?_text (operator : Operator) : ofText? operator.text = some operator := by
  cases operator <;> rfl

end Operator

/-- A scalar written in a selector. -/
inductive Literal where
  | null
  | bool (value : Bool)
  | number (value : Float)
  | string (value : String)

namespace Literal

/-- The primitive that a literal is compared as. -/
def toPrimitive : Literal → Primitive
  | .null => .null
  | .bool value => .bool value
  | .number value => .number value
  | .string value => .string value

/-- Equality of literals; numbers are compared as numbers, so both zeros are equal and what is not a
number differs from itself. -/
def agrees : Literal → Literal → Bool
  | .null, .null => true
  | .bool left, .bool right => left == right
  | .number left, .number right => left == right
  | .string left, .string right => left == right
  | _, _ => false

end Literal

/-- A regular expression with the text and options that it was compiled from. -/
structure Pattern where
  source : String
  options : String
  regex : Regex

/-- Equality of patterns, by what they were compiled from. -/
def Pattern.agrees (left right : Pattern) : Bool :=
  left.source == right.source && left.options == right.options

/-- What an attribute test compares a field with. -/
inductive Operand where
  | pattern (pattern : Pattern)
  | literal (literal : Literal)
  /-- The name of a type of values. -/
  | typeName (name : String)

namespace Operand

/-- The operand of an order comparison; a pattern has none. -/
def raw? : Operand → Option Primitive
  | .pattern _ => none
  | .literal value => some value.toPrimitive
  | .typeName name => some (.string name)

def agrees : Operand → Operand → Bool
  | .pattern left, .pattern right => left.agrees right
  | .literal left, .literal right => left.agrees right
  | .typeName left, .typeName right => left == right
  | _, _ => false

def optionAgrees : Option Operand → Option Operand → Bool
  | none, none => true
  | some left, some right => left.agrees right
  | _, _ => false

end Operand

inductive NodeTest where
  /-- Every node. -/
  | wildcard
  /-- A type tag, in any letter case. -/
  | identifier (value : String)
  /-- A dotted field path that leads to the node from one of its ancestors. -/
  | field (path : String)
  /-- A comparison of the value at a dotted path, or its presence if there is no operator. -/
  | attribute (path : String) (operator? : Option Operator) (operand? : Option Operand)

def NodeTest.agrees : NodeTest → NodeTest → Bool
  | .wildcard, .wildcard => true
  | .identifier left, .identifier right => left == right
  | .field left, .field right => left == right
  | .attribute left leftOperator leftOperand, .attribute right rightOperator rightOperand =>
      left == right && leftOperator == rightOperator &&
        Operand.optionAgrees leftOperand rightOperand
  | _, _ => false

/-- How the members of a group combine. -/
inductive Grouping where
  /-- Some member matches. -/
  | anyOf
  /-- Every member matches. -/
  | allOf
  /-- No member matches. -/
  | noneOf
deriving DecidableEq, Repr

/-- The relation between the nodes that two selectors match. -/
inductive Combinator where
  | child
  | descendant
  | sibling
  | adjacent
deriving DecidableEq, Repr

/-- The end of a list from which positions are counted. -/
inductive Edge where
  | first
  | last
deriving DecidableEq, Repr

/-- A selector. The subject flag, which every part has, marks the parts whose match is reported. -/
inductive Selector where
  | single (test : NodeTest) (subject : Bool)
  | group (grouping : Grouping) (members : List Selector) (subject : Bool)
  | relation (combinator : Combinator) (left right : Selector) (subject : Bool)
  /-- The node's place in a list, counted from one, and what it must match besides. -/
  | place (edge : Edge) (index : Nat) (of? : Option Selector) (subject : Bool)

/-- What kind of selector a selector is, without its parts. -/
inductive Shape where
  | wildcard
  | identifier
  | field
  | attribute
  | group (grouping : Grouping)
  | relation (combinator : Combinator)
  | place (edge : Edge)
deriving DecidableEq, Repr

namespace Shape

def tag : Shape → String
  | .wildcard => "wildcard"
  | .identifier => "identifier"
  | .field => "field"
  | .attribute => "attribute"
  | .group .anyOf => "matches"
  | .group .allOf => "compound"
  | .group .noneOf => "not"
  | .relation .child => "child"
  | .relation .descendant => "descendant"
  | .relation .sibling => "sibling"
  | .relation .adjacent => "adjacent"
  | .place .first => "nth-child"
  | .place .last => "nth-last-child"

/-- Every shape, in the order in which suggestions prefer them. -/
def all : List Shape :=
  [.wildcard, .identifier, .field, .group .anyOf, .group .allOf, .group .noneOf, .relation .child,
   .relation .descendant, .attribute, .relation .sibling, .relation .adjacent, .place .first,
   .place .last]

def ofTag? (tag : String) : Option Shape :=
  all.find? fun shape => shape.tag == tag

/-- The tag of a shape reads back as that shape. -/
theorem ofTag?_tag (shape : Shape) : ofTag? shape.tag = some shape := by
  cases shape with
  | group grouping => cases grouping <;> rfl
  | relation combinator => cases combinator <;> rfl
  | place edge => cases edge <;> rfl
  | _ => rfl

end Shape

def NodeTest.shape : NodeTest → Shape
  | .wildcard => .wildcard
  | .identifier _ => .identifier
  | .field _ => .field
  | .attribute _ _ _ => .attribute

namespace Selector

def shape : Selector → Shape
  | .single test _ => test.shape
  | .group grouping _ _ => .group grouping
  | .relation combinator _ _ _ => .relation combinator
  | .place edge _ _ _ => .place edge

def tag (selector : Selector) : String :=
  selector.shape.tag

/-- Whether the selector itself is marked. -/
def subject : Selector → Bool
  | .single _ subject => subject
  | .group _ _ subject => subject
  | .relation _ _ _ subject => subject
  | .place _ _ _ subject => subject

/-- The selector with itself marked. -/
def markSubject : Selector → Selector
  | .single test _ => .single test true
  | .group grouping members _ => .group grouping members true
  | .relation combinator left right _ => .relation combinator left right true
  | .place edge index of? _ => .place edge index of? true

mutual

/-- Equality of selectors, marks included. -/
def agrees : Selector → Selector → Bool
  | .single left leftMark, .single right rightMark => left.agrees right && leftMark == rightMark
  | .group left leftMembers leftMark, .group right rightMembers rightMark =>
      left == right && listsAgree leftMembers rightMembers && leftMark == rightMark
  | .relation left leftFirst leftSecond leftMark, .relation right rightFirst rightSecond rightMark =>
      left == right && agrees leftFirst rightFirst && agrees leftSecond rightSecond &&
        leftMark == rightMark
  | .place left leftIndex none leftMark, .place right rightIndex none rightMark =>
      left == right && leftIndex == rightIndex && leftMark == rightMark
  | .place left leftIndex (some leftOf) leftMark, .place right rightIndex (some rightOf) rightMark =>
      left == right && leftIndex == rightIndex && agrees leftOf rightOf && leftMark == rightMark
  | _, _ => false

def listsAgree : List Selector → List Selector → Bool
  | [], [] => true
  | left :: leftRest, right :: rightRest => agrees left right && listsAgree leftRest rightRest
  | _, _ => false

end

end Selector

end SyntaxQuery
