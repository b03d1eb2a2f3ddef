import SyntaxQuery.Command.Style
import SyntaxQuery.Document.Node
import SyntaxQuery.Json.Printer
import SyntaxQuery.Source.Node
import SyntaxQuery.Text.Blank

/-!
Contract: reported nodes as they are shown.

Owns: what is shown of a node of either dialect, the line of text for it, and its JSON object.
Does not own: which nodes are reported, and in what order.
-/

namespace SyntaxQuery

/-- What is shown of a reported node. -/
structure Hit where
  kind : String
  span? : Option (Nat × Nat)
  line? : Option Nat
  /-- A short label; empty if there is none. -/
  snippet : String
  /-- The node itself, if it is JSON. -/
  document? : Option Json

namespace Hit

/-- The members that can label a node of a document, in the order of preference. -/
def labelKeys : List String := ["name", "raw", "value", "operator"]

/-- The label that a member's value gives: null, arrays and objects give none. -/
def labelOf? : Json → Option String
  | .string text => some text
  | .number value => some (Json.number value).compact
  | .bool value => some (Json.bool value).compact
  | _ => none

def documentLabel (value : Json) : String :=
  (labelKeys.findSome? fun key => (value.member? key).bind labelOf?).getD ""

/-- The line that a node of a document records, if that is a natural number. -/
def documentLine? (value : Json) : Option Nat := do
  let place ← value.member? "loc"
  let start ← place.member? "start"
  (← start.member? "line").nat?

/-- What is shown of a node of a document. -/
def ofDocument (node : DocumentNode) : Hit where
  kind := SyntaxNode.kind node
  span? := SyntaxNode.span? node
  line? := documentLine? node.value
  snippet := documentLabel node.value
  document? := some node.value

/-- The number of characters of a source line that are shown. -/
def snippetLimit : Nat := 80

/-- The first line of a text without blanks at its end, cut at the limit. -/
def firstLine (text : String) : String :=
  let line := Text.trimEnd (text.toList.takeWhile (· != '\n'))
  if snippetLimit < line.length then String.ofList (line.take snippetLimit) ++ "…"
  else String.ofList line

/-- What is shown of a node of program source. -/
def ofSource (node : SourceNode) : Hit where
  kind := SyntaxNode.kind node
  span? := SyntaxNode.span? node
  line? := some (node.tree.info.row + 1)
  snippet := firstLine node.text
  document? := none

/-- The place of a node in a file: its line, else its span, else the file alone. -/
def location (path : String) (hit : Hit) : String :=
  match hit.line?, hit.span? with
  | some line, _ => path ++ ":" ++ Nat.repr line
  | none, some (start, stop) => path ++ "@" ++ Nat.repr start ++ ".." ++ Nat.repr stop
  | none, none => path

/-- The line of text for a node. -/
def text (colored : Bool) (path : String) (hit : Hit) : String :=
  let head :=
    Style.dim.paint colored (hit.location path) ++ "  " ++ Style.cyan.paint colored hit.kind
  if hit.snippet.isEmpty then head else head ++ "  " ++ hit.snippet

def spanJson (hit : Hit) : Json :=
  match hit.span? with
  | some (start, stop) => .array [.ofNat start, .ofNat stop]
  | none => .null

/-- The object for a node. It ends with the node itself, or for source with the snippet. -/
def json (path : String) (hit : Hit) : Json :=
  let line :=
    match hit.line? with
    | some line => [("line", Json.ofNat line)]
    | none => []
  let content :=
    match hit.document? with
    | some value => ("node", value)
    | none => ("text", Json.string hit.snippet)
  .object ([("file", .string path), ("type", .string hit.kind), ("range", hit.spanJson)] ++ line ++
    [content])

end Hit

end SyntaxQuery
