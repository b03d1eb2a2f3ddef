import SyntaxQuery.Json.Token

/-!
Contract: JSON values to text.

Owns: the tokens of a value, the compact text that is their concatenation, and the indented text.
Does not own: the text of a token.
-/

namespace SyntaxQuery.Json

mutual

def tokens : Json → List Token
  | .null => [.null]
  | .bool value => [.bool value]
  | .number value => [.number value]
  | .string value => [.string value]
  | .array items => .beginArray :: itemTokens items ++ [.endArray]
  | .object members => .beginObject :: memberTokens members ++ [.endObject]

/-- The tokens of the items of an array, with commas between. -/
def itemTokens : List Json → List Token
  | [] => []
  | [item] => tokens item
  | item :: next :: rest => tokens item ++ .comma :: itemTokens (next :: rest)

/-- The tokens of the members of an object, with commas between. -/
def memberTokens : List (String × Json) → List Token
  | [] => []
  | [(key, value)] => .string key :: .colon :: tokens value
  | (key, value) :: next :: rest =>
      .string key :: .colon :: tokens value ++ .comma :: memberTokens (next :: rest)

end

def compact (value : Json) : String :=
  String.ofList (value.tokens.flatMap Token.text)

def quoted (text : String) : String :=
  String.ofList (Token.text (.string text))

/-- A new line indented by two spaces a level. -/
def newLine (level : Nat) : String :=
  "\n" ++ String.ofList (List.replicate (2 * level) ' ')

mutual

/-- The text of a value with each item and member on a line of its own, starting at a level of
indentation. Empty containers stay on one line. -/
def indented (level : Nat) : Json → String
  | .array [] => "[]"
  | .array (item :: rest) =>
      "[" ++ newLine (level + 1) ++ indented (level + 1) item ++ indentedItems (level + 1) rest ++
        newLine level ++ "]"
  | .object [] => "\x7b\x7d"
  | .object ((key, value) :: rest) =>
      "\x7b" ++ newLine (level + 1) ++ quoted key ++ ": " ++ indented (level + 1) value ++
        indentedMembers (level + 1) rest ++ newLine level ++ "\x7d"
  | .null => "null"
  | .bool value => String.ofList (Token.text (.bool value))
  | .number value => String.ofList value.text
  | .string value => quoted value

/-- The items of an array after the first, each on a new line. -/
def indentedItems (level : Nat) : List Json → String
  | [] => ""
  | item :: rest => "," ++ newLine level ++ indented level item ++ indentedItems level rest

/-- The members of an object after the first, each on a new line. -/
def indentedMembers (level : Nat) : List (String × Json) → String
  | [] => ""
  | (key, value) :: rest =>
      "," ++ newLine level ++ quoted key ++ ": " ++ indented level value ++
        indentedMembers level rest

end

/-- The indented text of a value. -/
def pretty (value : Json) : String :=
  indented 0 value

end SyntaxQuery.Json
