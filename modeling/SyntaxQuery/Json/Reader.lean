import SyntaxQuery.Json.Token

/-!
Contract: JSON text to values.

Owns: a machine with an explicit stack of open containers that assembles tokens, and the limit on
how deeply containers may nest.
Does not own: the spelling of tokens.
-/

namespace SyntaxQuery.Json

/-- An open container and what it holds so far; array items are kept last first. -/
inductive Container where
  | array (items : List Json)
  | object (members : List (String × Json)) (key : String)

/-- What the next token may be. -/
inductive Expectation where
  /-- A value. -/
  | value
  /-- A value, or the end of the array that was just opened. -/
  | itemOrEnd
  /-- A comma, or the end of the innermost container. -/
  | commaOrEnd
  /-- A key of the object with these members. -/
  | key (members : List (String × Json))
  /-- A key, or the end of the object that was just opened. -/
  | keyOrEnd
  /-- The colon after a key. -/
  | colon (members : List (String × Json)) (key : String)
  /-- Nothing: the value is complete. -/
  | finished (value : Json)

/-- The assembly of a value: the open containers, innermost first, and what may come next. -/
structure Assembly where
  containers : List Container
  next : Expectation

namespace Assembly

/-- Hands a complete value to the innermost open container. -/
def complete (containers : List Container) (value : Json) : Assembly :=
  match containers with
  | [] => ⟨[], .finished value⟩
  | .array items :: outer => ⟨.array (value :: items) :: outer, .commaOrEnd⟩
  | .object members key :: outer => ⟨.object (put key value members) key :: outer, .commaOrEnd⟩

/-- Whether one more container may be opened. -/
def mayOpen (limit? : Option Nat) (containers : List Container) : Bool :=
  match limit? with
  | none => true
  | some limit => containers.length < limit

/-- The step for a token that begins a value. -/
def beginValue (limit? : Option Nat) (containers : List Container) : Token → Option Assembly
  | .null => some (complete containers .null)
  | .bool value => some (complete containers (.bool value))
  | .number value => some (complete containers (.number value))
  | .string value => some (complete containers (.string value))
  | .beginArray =>
      if mayOpen limit? containers then some ⟨.array [] :: containers, .itemOrEnd⟩ else none
  | .beginObject =>
      if mayOpen limit? containers then some ⟨.object [] "" :: containers, .keyOrEnd⟩ else none
  | _ => none

/-- One step of the assembly. -/
def step (limit? : Option Nat) (assembly : Assembly) (token : Token) : Option Assembly :=
  match assembly.next, assembly.containers, token with
  | .value, containers, token => beginValue limit? containers token
  | .itemOrEnd, .array _ :: outer, .endArray => some (complete outer (.array []))
  | .itemOrEnd, containers, token => beginValue limit? containers token
  | .commaOrEnd, .array items :: outer, .endArray => some (complete outer (.array items.reverse))
  | .commaOrEnd, .array items :: outer, .comma => some ⟨.array items :: outer, .value⟩
  | .commaOrEnd, .object members _ :: outer, .endObject => some (complete outer (.object members))
  | .commaOrEnd, .object members _ :: outer, .comma => some ⟨outer, .key members⟩
  | .key members, containers, .string key => some ⟨containers, .colon members key⟩
  | .keyOrEnd, .object _ _ :: outer, .endObject => some (complete outer (.object []))
  | .keyOrEnd, .object members _ :: outer, .string key => some ⟨outer, .colon members key⟩
  | .colon members key, containers, .colon => some ⟨.object members key :: containers, .value⟩
  | _, _, _ => none

/-- The assembly after some tokens. -/
def run (limit? : Option Nat) : Assembly → List Token → Option Assembly
  | assembly, [] => some assembly
  | assembly, token :: rest => do run limit? (← step limit? assembly token) rest

end Assembly

/-- The value of a sequence of tokens in which at most `limit?` containers are open at once. -/
def ofTokens? (limit? : Option Nat) (tokens : List Token) : Option Json := do
  let assembly ← Assembly.run limit? ⟨[], .value⟩ tokens
  match assembly.next with
  | .finished value => some value
  | _ => none

/-- The value of a JSON text in which containers nest at most `limit?` deep. -/
def read? (limit? : Option Nat) (text : String) : Option Json := do
  ofTokens? limit? (← scan? text.toList)

/-- How deeply the containers of a selector or document text may nest. -/
def textNestingLimit : Nat := 127

/-- The value of a selector or document text. -/
def parse? (text : String) : Option Json :=
  read? (some textNestingLimit) text

/-- Assembling a sequence of tokens in two parts is assembling it in one. -/
theorem Assembly.run_append (limit? : Option Nat) (assembly : Assembly)
    (first second : List Token) :
    Assembly.run limit? assembly (first ++ second) =
      (Assembly.run limit? assembly first).bind (Assembly.run limit? · second) := by
  induction first generalizing assembly with
  | nil => simp [Assembly.run]
  | cons token rest inductionHypothesis =>
      simp only [List.cons_append, Assembly.run, bind]
      cases Assembly.step limit? assembly token with
      | none => rfl
      | some next => exact inductionHypothesis next

end SyntaxQuery.Json
