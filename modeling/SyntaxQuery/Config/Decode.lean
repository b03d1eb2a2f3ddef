import SyntaxQuery.Config.Basic
import SyntaxQuery.Toml.Basic

/-!
Contract: TOML text to settings.

Owns: the sections and keys that settings are read from, their defaults, and which values are
accepted. Keys that are not known are passed over.
Does not own: TOML text, and the validation of settings.
-/

namespace SyntaxQuery.Config

/-- The fields of a section under their names. A section may also be an array, which lists its fields
in order; fields that are not given are missing. -/
def sectionFields? (names : List String) : Option Toml → Option Toml.Entries
  | none => some []
  | some (.table _ entries) => some entries
  | some (.array items) => some (names.zip items)
  | some (.tables elements) =>
      some (names.zip (elements.reverse.map (Toml.table .header)))
  | some _ => none

/-- The word that a value chooses: a string, or a table whose only key has an empty value. -/
def word? : Toml → Option String
  | .string word => some word
  | .table _ [(word, .table _ [])] => some word
  | .table _ [(word, .array [])] => some word
  | _ => none

/-- The treatment of unknown node types that a value names; the default if there is no value. -/
def fallback? : Option Toml → Option Fallback
  | none => some default.fallback
  | some value => do
      let word ← word? value
      if word = "iteration" then some .iteration
      else if word = "strict" then some .strict
      else none

/-- The form of reports that a value names; the default if there is no value. -/
def format? : Option Toml → Option OutputFormat
  | none => some default.format
  | some value => (word? value).bind OutputFormat.ofWord?

/-- The use of colors that a value names; the default if there is no value. -/
def color? : Option Toml → Option Bool
  | none => some default.color
  | some (.boolean value) => some value
  | some _ => none

def string? : Toml → Option String
  | .string value => some value
  | _ => none

def strings? : Toml → Option (List String)
  | .array items => items.mapM string?
  | _ => none

/-- The child fields by node type that a value lists; none if there is no value. -/
def visitorKeys? : Option Toml → Option (List (String × List String))
  | none => some default.visitorKeys
  | some (.table _ entries) => do
      let listed ← entries.mapM fun (nodeType, fields) => do some (nodeType, ← strings? fields)
      some (sortKeys listed)
  | some _ => none

/-- The settings that the root table of a document describes. -/
def ofToml? (root : Toml.Entries) : Option Config := do
  let schema ← sectionFields? ["fallback", "visitor_keys"] (Toml.lookup? "schema" root)
  let output ← sectionFields? ["format", "color"] (Toml.lookup? "output" root)
  some {
    fallback := ← fallback? (Toml.lookup? "fallback" schema)
    visitorKeys := ← visitorKeys? (Toml.lookup? "visitor_keys" schema)
    format := ← format? (Toml.lookup? "format" output)
    color := ← color? (Toml.lookup? "color" output) }

/-- Why a text does not give settings. -/
inductive Fault where
  /-- It is not TOML, or its values are not of the right kind. -/
  | malformed
  /-- The settings have issues. -/
  | invalid (issues : List ConfigIssue)
deriving DecidableEq, Repr

/-- The valid settings that a text describes to a reader of TOML. -/
def parse (read : Toml.Reader) (text : String) : Except Fault Config :=
  match (read text).bind ofToml? with
  | none => .error .malformed
  | some config =>
      match config.issues with
      | [] => .ok config
      | issues => .error (.invalid issues)

end SyntaxQuery.Config
