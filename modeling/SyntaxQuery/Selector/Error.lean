import SyntaxQuery.Json.Printer
import SyntaxQuery.Regex.Basic

/-!
Contract: why a JSON value is not a selector.

Owns: the causes and the wording of each.
Does not own: when they arise.
-/

namespace SyntaxQuery

/-- Why the value of a field is refused. -/
inductive FieldFault where
  | notAnIndex (found : Json)
  | unknownOperator (written : String)
  | operatorNotText (found : Json)
  | operandNotObject (found : Json)
  | operandWithoutType
  | patternWithoutSource
  | notAPattern (found : Json)
  | notAScalar (found : Json)
  | missingTypeName
  | unknownOperandType (tag : String)

def FieldFault.message : FieldFault → String
  | .notAnIndex found => "expected a non-negative integer, found " ++ found.compact
  | .unknownOperator written => "unknown operator '" ++ written ++ "'"
  | .operatorNotText found => "expected a string, found " ++ found.compact
  | .operandNotObject found => "expected an object, found " ++ found.compact
  | .operandWithoutType => "missing value type"
  | .patternWithoutSource => "regexp without source"
  | .notAPattern found => "expected a pattern, found " ++ found.compact
  | .notAScalar found => "expected a scalar literal, found " ++ found.compact
  | .missingTypeName => "type() needs a type name"
  | .unknownOperandType tag => "unknown value type '" ++ tag ++ "'"

/-- Why a JSON value is not a selector. -/
inductive SelectorError where
  | unknownTag (tag : String) (suggestion? : Option String)
  | missingField (kind field : String)
  | invalidField (kind field : String) (fault : FieldFault)
  | operatorWithoutOperand (path : String)
  | invalidPattern (source : String) (fault : Regex.Fault)

def SelectorError.message : SelectorError → String
  | .unknownTag tag suggestion? =>
      let hint :=
        match suggestion? with
        | some suggestion => " (did you mean '" ++ suggestion ++ "'?)"
        | none => ""
      "unknown selector kind '" ++ tag ++ "'" ++ hint
  | .missingField kind field =>
      "'" ++ kind ++ "' selector is missing required field '" ++ field ++ "'"
  | .invalidField kind field fault =>
      "'" ++ kind ++ "' selector has an invalid '" ++ field ++ "': " ++ fault.message
  | .operatorWithoutOperand path =>
      "attribute selector '[" ++ path ++ "]' has an operator but no value"
  | .invalidPattern source fault =>
      "invalid regular expression /" ++ source ++ "/: " ++ fault.message

end SyntaxQuery
