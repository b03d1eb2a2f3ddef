/-!
Contract: regular expressions as a library provides them.

Owns:
- what can be seen of a compiled expression;
- a library as the function that builds expressions, of which nothing else is known;
- the letters that set its options, and the compilation of a pattern under such letters.

Does not own: any particular library.
-/

namespace SyntaxQuery

/-- A compiled regular expression. All that can be seen of it is whether it matches somewhere in a
text. -/
structure Regex where
  isMatch : String → Bool

namespace Regex

/-- The options that a pattern is built under. -/
structure Options where
  ignoreCase : Bool
  multiLine : Bool
  dotAll : Bool
deriving DecidableEq, Repr

/-- The options where no letter sets any. -/
def Options.default : Options := ⟨false, false, false⟩

/-- A library of regular expressions: what it builds from the source of a pattern under some
options, or its message if it refuses the pattern. -/
abbrev Builder := String → Options → Except String Regex

/-- Why a pattern cannot be compiled. -/
inductive Fault where
  /-- A letter that is no option. -/
  | unsupportedFlag (flag : Char)
  /-- The library refuses the pattern. -/
  | refused (message : String)
deriving DecidableEq, Repr

def Fault.message : Fault → String
  | .unsupportedFlag flag => "unsupported flag '" ++ String.singleton flag ++ "'"
  | .refused message => message

/-- The options that letters set besides those that are set already. The letters for repeated
search, Unicode and anchored search have no effect on a test. -/
def readOptions : Options → List Char → Except Fault Options
  | options, [] => .ok options
  | options, 'i' :: rest => readOptions { options with ignoreCase := true } rest
  | options, 'm' :: rest => readOptions { options with multiLine := true } rest
  | options, 's' :: rest => readOptions { options with dotAll := true } rest
  | options, other :: rest =>
      if other = 'g' ∨ other = 'u' ∨ other = 'y' then readOptions options rest
      else .error (.unsupportedFlag other)

/-- Compiles a pattern under option letters. The letters are checked before the library is asked. -/
def compile (build : Builder) (source letters : String) : Except Fault Regex :=
  match readOptions .default letters.toList with
  | .error fault => .error fault
  | .ok options => (build source options).mapError .refused

end Regex

end SyntaxQuery
