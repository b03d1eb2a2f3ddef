import SyntaxQuery.Decimal.Layout
import SyntaxQuery.Decimal.Numeral

/-!
Contract: what a field of a syntax node can hold, and how it is compared.

Owns:
- the values of fields and the primitives they reduce to;
- the type names, texts and numbers of values;
- the order between primitives.

Does not own: how a node stores its fields.
-/

namespace SyntaxQuery

/-- A scalar that an attribute test compares. -/
inductive Primitive where
  | undefined
  | null
  | bool (value : Bool)
  | number (value : Float)
  | string (value : String)

namespace Primitive

/-- The number that a primitive counts as. -/
def toNumber : Primitive → Float
  | .undefined => Decimal.notANumber
  | .null => 0
  | .bool value => if value then 1 else 0
  | .number value => value
  | .string value => Numeral.value value

def boolText (value : Bool) : String :=
  if value then "true" else "false"

def text : Primitive → String
  | .undefined => "undefined"
  | .null => "null"
  | .bool value => boolText value
  | .number value => Decimal.attributeText value
  | .string value => value

/-- The order between two numbers; there is none with what is not a number. -/
def compareNumbers (left right : Float) : Option Ordering :=
  if left < right then some .lt
  else if right < left then some .gt
  else if left == right then some .eq
  else none

/-- The order between two texts, by code points. -/
def compareTexts : List Char → List Char → Ordering
  | [], [] => .eq
  | [], _ :: _ => .lt
  | _ :: _, [] => .gt
  | left :: leftRest, right :: rightRest =>
      if left.toNat < right.toNat then .lt
      else if right.toNat < left.toNat then .gt
      else compareTexts leftRest rightRest

/-- The order between two primitives: as texts when both are strings, as numbers otherwise. -/
def compare (left right : Primitive) : Option Ordering :=
  match left, right with
  | .string left, .string right => some (compareTexts left.toList right.toList)
  | left, right => compareNumbers left.toNumber right.toNumber

end Primitive

/-- What a field holds, with `ν` for the nodes of the tree. -/
inductive Value (ν : Type) where
  /-- The field does not exist. -/
  | absent
  /-- The field exists and holds nothing. -/
  | null
  | bool (value : Bool)
  | number (value : Float)
  | string (value : String)
  /-- A syntax node. -/
  | node (held : ν)
  /-- A record that is not a syntax node: paths lead through it, traversal does not. -/
  | object (held : ν)
  | list (items : List (Value ν))

namespace Value

variable {ν : Type}

/-- A value is present unless it is absent or null. -/
def isPresent : Value ν → Bool
  | .absent => false
  | .null => false
  | _ => true

/-- The syntax node that a value is. -/
def node? : Value ν → Option ν
  | .node held => some held
  | _ => none

/-- The record that a value is, a syntax node or a plain one. -/
def record? : Value ν → Option ν
  | .node held => some held
  | .object held => some held
  | _ => none

def list? : Value ν → Option (List (Value ν))
  | .list items => some items
  | _ => none

/-- The syntax nodes that a field contributes to its node's children: the value itself, or the
direct elements of a list. -/
def nodes : Value ν → List ν
  | .node held => [held]
  | .list items => items.filterMap node?
  | _ => []

def typeName : Value ν → String
  | .absent => "undefined"
  | .bool _ => "boolean"
  | .number _ => "number"
  | .string _ => "string"
  | .null => "object"
  | .node _ => "object"
  | .object _ => "object"
  | .list _ => "object"

mutual

def text : Value ν → String
  | .absent => "undefined"
  | .null => "null"
  | .bool value => Primitive.boolText value
  | .number value => Decimal.attributeText value
  | .string value => value
  | .node _ => "[object Object]"
  | .object _ => "[object Object]"
  | .list items => ",".intercalate (itemTexts items)

/-- The texts of the elements of a list; what is absent or null leaves an empty place. -/
def itemTexts : List (Value ν) → List String
  | [] => []
  | .absent :: rest => "" :: itemTexts rest
  | .null :: rest => "" :: itemTexts rest
  | item :: rest => text item :: itemTexts rest

end

/-- The primitive that a value is compared as. -/
def toPrimitive : Value ν → Primitive
  | .absent => .undefined
  | .null => .null
  | .bool value => .bool value
  | .number value => .number value
  | .string value => .string value
  | value => .string value.text

end Value

end SyntaxQuery
