import SyntaxQuery.Document.Schema
import SyntaxQuery.Text.Blank
import SyntaxQuery.Tree.Value

/-!
Contract: the settings of a query and their validation.

Owns:
- the settings and their defaults;
- the issues that settings can have, in order, and the wording of each;
- the document schema that settings describe.

Does not own: how settings are written.
-/

namespace SyntaxQuery

/-- The form of a report. -/
inductive OutputFormat where
  | text
  | json
deriving DecidableEq, Repr

/-- The form that a word names. -/
def OutputFormat.ofWord? (word : String) : Option OutputFormat :=
  if word = "text" then some .text
  else if word = "json" then some .json
  else none

/-- The settings of a query. The child fields are listed by node type, in ascending order. -/
structure Config where
  fallback : Fallback
  visitorKeys : List (String × List String)
  format : OutputFormat
  color : Bool
deriving DecidableEq, Repr

/-- What is wrong with the child fields of a node type. -/
inductive ConfigIssue where
  | emptyNodeType
  | emptyFieldName (nodeType : String)
  | duplicateField (nodeType field : String)
deriving DecidableEq, Repr

def ConfigIssue.message : ConfigIssue → String
  | .emptyNodeType => "schema.visitor_keys contains an empty node type"
  | .emptyFieldName nodeType =>
      "visitor keys for '" ++ nodeType ++ "' contain an empty field name"
  | .duplicateField nodeType field =>
      "visitor keys for '" ++ nodeType ++ "' list '" ++ field ++ "' more than once"

namespace Config

/-- The settings where none are written. -/
def default : Config := ⟨.iteration, [], .text, true⟩

/-- The issues of a list of fields, given the fields that were met before. A blank field is never a
duplicate. -/
def fieldIssues (nodeType : String) (met : List String) : List String → List ConfigIssue
  | [] => []
  | field :: rest =>
      if Text.blank field then .emptyFieldName nodeType :: fieldIssues nodeType met rest
      else if met.contains field then
        .duplicateField nodeType field :: fieldIssues nodeType met rest
      else fieldIssues nodeType (field :: met) rest

/-- The issues of the fields of one node type; those of a blank type are not looked at. -/
def typeIssues (entry : String × List String) : List ConfigIssue :=
  if Text.blank entry.1 then [.emptyNodeType] else fieldIssues entry.1 [] entry.2

def issues (config : Config) : List ConfigIssue :=
  config.visitorKeys.flatMap typeIssues

/-- The standard schema with the fallback and the child fields of some settings. -/
def schema (config : Config) : DocumentSchema :=
  (DocumentSchema.standard.withFallback config.fallback).withVisitorKeys config.visitorKeys

/-- Puts a node type's fields into their place in ascending order. -/
def insertKeys (entry : String × List String) :
    List (String × List String) → List (String × List String)
  | [] => [entry]
  | first :: rest =>
      if Primitive.compareTexts entry.1.toList first.1.toList = .lt then entry :: first :: rest
      else first :: insertKeys entry rest

/-- The child fields in ascending order of node type. -/
def sortKeys (entries : List (String × List String)) : List (String × List String) :=
  entries.foldr insertKeys []

end Config

end SyntaxQuery
