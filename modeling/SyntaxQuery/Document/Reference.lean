import SyntaxQuery.Document.Node
import SyntaxQuery.Text.Segments

/-!
Contract: textual references to places of a document.

Owns: the text of a position, in which `~` and `/` of keys are escaped, and the value at such a text.
Does not own: what the value is used for.
-/

namespace SyntaxQuery

/-- A character of a key as it stands in a reference. -/
def Step.escape (character : Char) : List Char :=
  if character = '~' then ['~', '0'] else if character = '/' then ['~', '1'] else [character]

/-- The key that an escaped key stands for. -/
def Step.unescape : List Char → List Char
  | '~' :: '0' :: rest => '~' :: unescape rest
  | '~' :: '1' :: rest => '/' :: unescape rest
  | character :: rest => character :: unescape rest
  | [] => []

def Step.reference : Step → String
  | .member key => "/" ++ String.ofList (key.toList.flatMap Step.escape)
  | .element index => "/" ++ Nat.repr index

/-- The text of a position; the root has the empty text. -/
def positionReference (position : List Step) : String :=
  String.join (position.map Step.reference)

def DocumentNode.reference (node : DocumentNode) : String :=
  positionReference node.position

/-- The value inside another that an escaped key or an index leads to. -/
def Json.stepInto? (value : Json) (segment : String) : Option (Step × Json) :=
  let key := String.ofList (Step.unescape segment.toList)
  match value with
  | .object members => (Json.lookup? key members).map fun held => (.member key, held)
  | .array items => do
      let index ← natOfDigits? 10 segment.toList
      (items[index]?).map fun held => (.element index, held)
  | _ => none

/-- The record that escaped segments lead to, starting from a record. -/
def DocumentNode.follow? (node : DocumentNode) : List String → Option DocumentNode
  | [] => some node
  | segment :: rest => do
      let (step, value) ← node.value.stepInto? segment
      DocumentNode.follow? ⟨node.position ++ [step], value⟩ rest

/-- The value of a document at a reference. -/
def DocumentNode.at? (document : Json) (reference : String) : Option DocumentNode :=
  match (Text.splitAt '/' reference.toList).map String.ofList with
  | _ :: segments => DocumentNode.follow? ⟨[], document⟩ segments
  | [] => none

end SyntaxQuery
