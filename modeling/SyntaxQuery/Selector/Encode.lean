import SyntaxQuery.Json.Basic
import SyntaxQuery.Selector.Basic

/-!
Contract: selectors to JSON values.

Owns: the members of each shape's object and their order.
Does not own: JSON text.
-/

namespace SyntaxQuery

/-- The value of a literal; a number that is not finite becomes null. -/
def Literal.encode : Literal → Json
  | .null => .null
  | .bool value => .bool value
  | .number value => Json.ofFloat value
  | .string value => .string value

/-- The object of an operand. A pattern without options has no member for them. -/
def Operand.encode : Operand → Json
  | .pattern compiled =>
      let options :=
        if compiled.options = "" then [] else [("flags", Json.string compiled.options)]
      .object ([("type", .string "regexp"), ("value", .string compiled.source)] ++ options)
  | .literal value => .object [("type", .string "literal"), ("value", value.encode)]
  | .typeName name => .object [("type", .string "type"), ("value", .string name)]

/-- The members of a test besides its tag. -/
def NodeTest.encode : NodeTest → List (String × Json)
  | .wildcard => [("value", .string "*")]
  | .identifier value => [("value", .string value)]
  | .field path => [("name", .string path)]
  | .attribute path operator? operand? =>
      let operator :=
        match operator? with
        | some operator => [("operator", Json.string operator.text)]
        | none => []
      let operand :=
        match operand? with
        | some operand => [("value", operand.encode)]
        | none => []
      ("name", .string path) :: operator ++ operand

namespace Selector

/-- The object of an index. -/
def encodeIndex (index : Nat) : Json :=
  .object [("type", .string "literal"), ("value", Json.ofNat index)]

/-- The object with a tag, further members, and the mark of a subject at the end. -/
def tagged (shape : Shape) (members : List (String × Json)) (subject : Bool) : Json :=
  let mark := if subject then [("subject", Json.bool true)] else []
  .object (("type", .string shape.tag) :: members ++ mark)

mutual

def encode : Selector → Json
  | .single test subject => tagged test.shape test.encode subject
  | .group grouping members subject =>
      tagged (.group grouping) [("selectors", .array (encodeAll members))] subject
  | .relation combinator left right subject =>
      tagged (.relation combinator) [("left", encode left), ("right", encode right)] subject
  | .place edge index none subject => tagged (.place edge) [("index", encodeIndex index)] subject
  | .place edge index (some inner) subject =>
      tagged (.place edge) [("index", encodeIndex index), ("right", encode inner)] subject

def encodeAll : List Selector → List Json
  | [] => []
  | first :: rest => encode first :: encodeAll rest

end

end Selector

end SyntaxQuery
