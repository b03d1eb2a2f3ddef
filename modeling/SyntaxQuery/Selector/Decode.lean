import SyntaxQuery.Selector.Error
import SyntaxQuery.Selector.Suggestion
import SyntaxQuery.Regex.Cache

/-!
Contract: JSON values to selectors.

Owns:
- which members of an object each shape of selector needs, and in which order they are checked;
- the operands of attribute tests;
- the cache of patterns that is threaded through a decoding, also past an error.

Does not own: the wording of errors.
-/

namespace SyntaxQuery

/-- A computation that may have a library build patterns and may fail. -/
abbrev Decoder := ReaderT Regex.Builder (ExceptT SelectorError (StateM RegexCache))

namespace Decoder

/-- Runs a computation with a library on a cache. -/
def runOn {α : Type} (decoder : Decoder α) (build : Regex.Builder) (cache : RegexCache) :
    Except SelectorError α × RegexCache :=
  (ExceptT.run (ReaderT.run decoder build)).run cache

/-- Refuses the value of a field of an attribute test. -/
def refuse {α : Type} (field : String) (fault : FieldFault) : Decoder α :=
  throw (.invalidField "attribute" field fault)

def pattern (source options : String) : Decoder Pattern := do
  let build ← read
  let cache ← get
  let (result, cache) := cache.get build source options
  set cache
  match result with
  | .ok regex => pure ⟨source, options, regex⟩
  | .error fault => throw (.invalidPattern source fault)

end Decoder

namespace Selector

abbrev Members := List (String × Json)

/-- The text under a key, or an empty text. -/
def optionalText (key : String) (members : Members) : String :=
  ((Json.lookup? key members).bind Json.string?).getD ""

/-- The text under a key that a kind of selector requires. -/
def requiredText (kind key : String) (members : Members) : Decoder String :=
  match (Json.lookup? key members).bind Json.string? with
  | some text => pure text
  | none => throw (.missingField kind key)

/-- The index of a place: a natural number, alone or as the `value` of an object. -/
def indexMember (kind : String) (members : Members) : Decoder Nat :=
  match Json.lookup? "index" members with
  | none => throw (.missingField kind "index")
  | some found =>
      let number? :=
        match found with
        | .object inner => Json.lookup? "value" inner
        | other => some other
      match number?.bind Json.nat? with
      | some index => pure index
      | none => throw (.invalidField kind "index" (.notAnIndex found))

/-- The pattern of an operand: its source alone with options beside it, or an object of both. -/
def decodePattern (members : Members) : Json → Decoder Pattern
  | .string source => Decoder.pattern source (optionalText "flags" members)
  | .object inner =>
      match (Json.lookup? "source" inner).bind Json.string? with
      | some source => Decoder.pattern source (optionalText "flags" inner)
      | none => Decoder.refuse "value" .patternWithoutSource
  | other => Decoder.refuse "value" (.notAPattern other)

def decodeLiteral : Json → Decoder Literal
  | .null => pure .null
  | .bool value => pure (.bool value)
  | .number value => pure (.number value.toFloat)
  | .string value => pure (.string value)
  | other => Decoder.refuse "value" (.notAScalar other)

def decodeOperand (value : Json) : Decoder Operand :=
  match value with
  | .object members => do
      let inner := (Json.lookup? "value" members).getD .null
      match (Json.lookup? "type" members).bind Json.string? with
      | none => Decoder.refuse "value" .operandWithoutType
      | some tag =>
          if tag = "regexp" then do pure (.pattern (← decodePattern members inner))
          else if tag = "literal" then do pure (.literal (← decodeLiteral inner))
          else if tag = "type" then
            match inner.string? with
            | some name => pure (.typeName name)
            | none => Decoder.refuse "value" .missingTypeName
          else Decoder.refuse "value" (.unknownOperandType tag)
  | other => Decoder.refuse "value" (.operandNotObject other)

/-- The operator of an attribute test, missing when there is none or it is null. -/
def decodeOperator (members : Members) : Decoder (Option Operator) :=
  match Json.lookup? "operator" members with
  | none => pure none
  | some .null => pure none
  | some (.string written) =>
      match Operator.ofText? written with
      | some operator => pure (some operator)
      | none => Decoder.refuse "operator" (.unknownOperator written)
  | some other => Decoder.refuse "operator" (.operatorNotText other)

/-- An attribute test: the path, then the operator, then the operand; an operator needs an operand. -/
def decodeAttribute (members : Members) : Decoder NodeTest := do
  let path ← requiredText "attribute" "name" members
  let operator? ← decodeOperator members
  let operand? ←
    match Json.lookup? "value" members with
    | none => pure none
    | some .null => pure none
    | some value => do pure (some (← decodeOperand value))
  if operator?.isSome ∧ operand?.isNone then throw (.operatorWithoutOperand path)
  else pure (.attribute path operator? operand?)

def isNull : Json → Bool
  | .null => true
  | _ => false

/-- A part that a kind of selector requires. -/
def requirePart (kind key : String) (part? : Option Selector) : Decoder Selector :=
  match part? with
  | some part => pure part
  | none => throw (.missingField kind key)

mutual

/-- The selector that a JSON value describes. -/
def decode : Json → Decoder Selector
  | .object members =>
      match (Json.lookup? "type" members).bind Json.string? with
      | none => throw (.missingField "selector" "type")
      | some tag =>
          let subject := ((Json.lookup? "subject" members).bind Json.bool?).getD false
          match Shape.ofTag? tag with
          | none => throw (.unknownTag tag (suggestTag? tag))
          | some .wildcard => pure (.single .wildcard subject)
          | some .identifier => do
              pure (.single (.identifier (← requiredText tag "value" members)) subject)
          | some .field => do
              pure (.single (.field (← requiredText tag "name" members)) subject)
          | some .attribute => do pure (.single (← decodeAttribute members) subject)
          | some (.group grouping) => do
              pure (.group grouping (← decodeList tag "selectors" members) subject)
          | some (.relation combinator) => do
              let left ← requirePart tag "left" (← decodePart "left" members)
              let right ← requirePart tag "right" (← decodePart "right" members)
              pure (.relation combinator left right subject)
          | some (.place edge) => do
              let index ← indexMember tag members
              pure (.place edge index (← decodePart "right" members) subject)
  | _ => throw (.missingField "selector" "type")

/-- The selector under a key, missing when there is none or it is null. -/
def decodePart (key : String) : Members → Decoder (Option Selector)
  | [] => pure none
  | (name, value) :: rest =>
      if name = key then
        if isNull value then pure none else do pure (some (← decode value))
      else decodePart key rest

/-- The selectors in the array under a key. -/
def decodeList (kind key : String) : Members → Decoder (List Selector)
  | [] => throw (.missingField kind key)
  | (name, .array items) :: rest =>
      if name = key then decodeAll items else decodeList kind key rest
  | (name, _) :: rest =>
      if name = key then throw (.missingField kind key) else decodeList kind key rest

/-- The selectors that several values describe, in order. -/
def decodeAll : List Json → Decoder (List Selector)
  | [] => pure []
  | item :: rest => do
      let first ← decode item
      pure (first :: (← decodeAll rest))

end

end Selector

end SyntaxQuery
