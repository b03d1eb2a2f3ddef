import SyntaxQuery.Command.Word
import SyntaxQuery.Config.Basic
import SyntaxQuery.Files.Path

/-!
Contract: command lines as requests.

Owns:
- the three commands, their options and operands, and the values that options accept;
- the requests that leave no command to run: help, the version, and what is not understood.

Does not own: the spellings of options, and running a command.
-/

namespace SyntaxQuery

/-- What a file is read as: a syntax tree in JSON, or program source. -/
inductive Dialect where
  | document
  | source
deriving DecidableEq, Repr

/-- Where a selector comes from. -/
inductive SelectorOrigin where
  | inline (text : String)
  | file (path : String)
  | standardInput
deriving DecidableEq, Repr

/-- The origin that a path names: a single dash stands for standard input. -/
def SelectorOrigin.ofPath (path : String) : SelectorOrigin :=
  if Path.components path = ["-"] then .standardInput else .file path

/-- A request to run a selector over files. -/
structure QueryRequest where
  selector : SelectorOrigin
  inputs : List String
  /-- The dialect of named files, and the only one to look for in directories; without it the
  extension of a file decides. -/
  dialect? : Option Dialect
  config? : Option String
  format? : Option OutputFormat
  countOnly : Bool
  plain : Bool
deriving DecidableEq, Repr

/-- A command with its arguments. -/
inductive Command where
  | query (request : QueryRequest)
  | subjects (selector : SelectorOrigin)
  | check (selector : SelectorOrigin)
deriving DecidableEq, Repr

namespace Command

/-- Why a command line has no command to run. -/
inductive Refusal where
  | usage
  | help
  | version
deriving DecidableEq, Repr

/-- The options of all commands. -/
inductive Choice where
  | selector
  | inline
  | dialect
  | config
  | format
  | count
  | plain
  | verbose
  | help
  | version
deriving DecidableEq, Repr

/-- The options that may stand anywhere. -/
def sharedForms : List (OptionForm Choice) :=
  [⟨.verbose, "verbose", some 'v', false⟩, ⟨.help, "help", some 'h', false⟩]

/-- The options in front of a command. -/
def leadingForms : List (OptionForm Choice) :=
  sharedForms ++ [⟨.version, "version", some 'V', false⟩]

/-- The options of the commands that only need a selector. -/
def selectorForms : List (OptionForm Choice) :=
  sharedForms ++
    [⟨.selector, "selector", some 's', true⟩, ⟨.inline, "inline", some 'i', true⟩]

/-- The options of a query. -/
def queryForms : List (OptionForm Choice) :=
  selectorForms ++
    [⟨.dialect, "lang", some 'l', true⟩, ⟨.config, "config", some 'c', true⟩,
      ⟨.format, "format", some 'f', true⟩, ⟨.count, "count", none, false⟩,
      ⟨.plain, "no-color", none, false⟩]

/-- The dialect that a word names; the outer option is empty for other words, and the inner one
leaves the choice to the extension. -/
def dialectOfWord? (word : String) : Option (Option Dialect) :=
  if word = "auto" then some none
  else if word = "json" then some (some .document)
  else if word = "rust" then some (some .source)
  else none

/-- Whether an option accepts a value. Paths are not empty, and words come from a list. -/
def Choice.accepts : Choice → String → Bool
  | .selector, value => !value.isEmpty
  | .config, value => !value.isEmpty
  | .dialect, value => (dialectOfWord? value).isSome
  | .format, value => (OutputFormat.ofWord? value).isSome
  | _, _ => true

/-- What has been read of a command line: its options with their values, which are empty for flags,
and its operands. Both are kept last first. -/
structure Choices where
  options : List (Choice × String)
  operands : List String

namespace Choices

def empty : Choices := ⟨[], []⟩

/-- The value of an option, if it was given. -/
def value? (choices : Choices) (choice : Choice) : Option String :=
  choices.options.lookup choice

def has (choices : Choices) (choice : Choice) : Bool :=
  (choices.value? choice).isSome

/-- Reads an option. It is given at most once, and a request for help or the version ends the reading
there. -/
def addOption (choices : Choices) (choice : Choice) (value : String) : Except Refusal Choices :=
  match choice with
  | .help => .error .help
  | .version => .error .version
  | choice =>
      if choices.has choice || !choice.accepts value then .error .usage
      else .ok ⟨(choice, value) :: choices.options, choices.operands⟩

/-- Reads a piece of a command line. An operand is the path of an input. -/
def add (takesOperands : Bool) (choices : Choices) : Item Choice → Except Refusal Choices
  | .flag choice => choices.addOption choice ""
  | .setting choice value => choices.addOption choice value
  | .operand word =>
      if takesOperands && !word.isEmpty then .ok ⟨choices.options, word :: choices.operands⟩
      else .error .usage
  | .fault => .error .usage

/-- Reads pieces in turn, up to the first that refuses. -/
def ofItems (takesOperands : Bool) (pieces : List (Item Choice)) : Except Refusal Choices :=
  pieces.foldlM (add takesOperands) empty

/-- The origin of the selector, which is given in exactly one way. -/
def origin (choices : Choices) : Except Refusal SelectorOrigin :=
  match choices.value? .selector, choices.value? .inline with
  | some path, none => .ok (.ofPath path)
  | none, some text => .ok (.inline text)
  | _, _ => .error .usage

/-- The request for a query, which has at least one input. -/
def query (choices : Choices) : Except Refusal QueryRequest :=
  match choices.origin, choices.operands with
  | .ok origin, operand :: operands =>
      .ok {
        selector := origin
        inputs := (operand :: operands).reverse
        dialect? := (choices.value? .dialect).bind fun word => (dialectOfWord? word).join
        config? := choices.value? .config
        format? := (choices.value? .format).bind OutputFormat.ofWord?
        countOnly := choices.has .count
        plain := choices.has .plain }
  | _, _ => .error .usage

end Choices

def names : List String := ["query", "subjects", "check"]

/-- The command of a name with the words after it. -/
def ofName (name : String) (words : List String) : Except Refusal Command :=
  if name = "query" then do
    let choices ← Choices.ofItems true (items queryForms words)
    return .query (← choices.query)
  else if name = "subjects" then do
    let choices ← Choices.ofItems false (items selectorForms words)
    return .subjects (← choices.origin)
  else if name = "check" then do
    let choices ← Choices.ofItems false (items selectorForms words)
    return .check (← choices.origin)
  else if name = "help" then
    match words with
    | [] => .error .help
    | [word] => if word = "help" || names.contains word then .error .help else .error .usage
    | _ => .error .usage
  else .error .usage

/-- The command that the words of a command line ask for. -/
def ofWords (words : List String) : Except Refusal Command := do
  let (leading, command) := leadingItems leadingForms words
  let _ ← Choices.ofItems false leading
  match command with
  | [] => .error .usage
  | name :: rest => ofName name rest

end Command

end SyntaxQuery
