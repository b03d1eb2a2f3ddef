import SyntaxQuery.Command.Inputs
import SyntaxQuery.Command.Report
import SyntaxQuery.Query.Report
import SyntaxQuery.Selector.Encode
import SyntaxQuery.Selector.Subjects
import SyntaxQuery.Source.Node

/-!
Contract: commands as they run.

Owns:
- what a command needs from its surroundings;
- the order of its steps, which decides the failure that is told of;
- the output of each command.

Does not own: any particular surroundings.
-/

namespace SyntaxQuery

/-- What surrounds a command that is carried out in `m`. -/
structure Surroundings (m : Type → Type) where
  files : FileSystem m
  /-- The bytes of standard input. -/
  standardInput : m ByteArray
  /-- The tree of a source text. -/
  parse : String → m (Except GrammarError SyntaxTree)
  /-- The library of regular expressions. -/
  buildRegex : Regex.Builder
  /-- The reader of settings. -/
  readToml : Toml.Reader
  /-- Whether output is colored unless a command says otherwise. -/
  colored : Bool

namespace Command

/-- A result, or the chain of messages of the failure that ends a command. -/
abbrev Outcome (α : Type) := Except (List String) α

/-- The outcome of loading a selector, told of with its origin. -/
def selectorOutcome (origin : String) : Except SelectorLoadError Selector → Outcome Selector
  | .ok selector => .ok selector
  | .error error => .error (origin :: error.chain)

/-- The output of a command that a failure ends. -/
def failed (chain : List String) : Output := ⟨1, "", failureText chain⟩

variable {m : Type → Type} [Monad m]

/-- The selector of a command. -/
def loadOrigin (surroundings : Surroundings m) : SelectorOrigin → m (Outcome Selector)
  | .inline text =>
      pure (selectorOutcome "invalid inline selector"
        (loadSelector surroundings.buildRegex text .empty).1)
  | .file path => do
      let (loaded, _) ← surroundings.files.readSelector surroundings.buildRegex path .empty
      pure (selectorOutcome ("invalid selector file " ++ path) loaded)
  | .standardInput => do
      match decodeUtf8 (← surroundings.standardInput) with
      | .ok text =>
          pure (selectorOutcome "invalid selector on stdin"
            (loadSelector surroundings.buildRegex text .empty).1)
      | .error cause =>
          pure (.error ["failed to read selector from stdin", cause.message])

/-- The settings of a query: from the file that was asked for, else from the nearest. -/
def loadSettings (surroundings : Surroundings m) (path? : Option String) : m (Outcome Config) := do
  let loaded ←
    match path? with
    | some path => surroundings.files.readConfig surroundings.readToml path
    | none => do
        match ← surroundings.files.nearestConfig surroundings.readToml
          surroundings.files.workingDirectory with
        | .ok (config, _) => pure (.ok config)
        | .error error => pure (.error error)
  match loaded with
  | .ok config => pure (.ok config)
  | .error error => pure (.error error.chain)

/-- What is shown of the nodes that a selector reports. -/
def hitsOf {ν : Type} [SyntaxNode ν] (schema : Schema ν) (selector : Selector) (describe : ν → Hit)
    (root : ν) : Except TreeLoadError (List Hit) :=
  match matchTree schema selector root with
  | .ok nodes => .ok (nodes.map describe)
  | .error refusal => .error (.refused refusal)

/-- What is shown of the nodes that a selector reports from a file. -/
def hitsIn (surroundings : Surroundings m) (config : Config) (selector : Selector)
    (file : InputFile) : m (Except TreeLoadError (List Hit)) := do
  match file.dialect with
  | .document => do
      match ← surroundings.files.readDocument file.path with
      | .error error => pure (.error error)
      | .ok root => pure (hitsOf config.schema.childFields selector .ofDocument root)
  | .source => do
      match ← surroundings.files.readSource file.path with
      | .error error => pure (.error error)
      | .ok text => do
          match ← surroundings.parse text with
          | .error error => pure (.error (.notParsed error))
          | .ok tree => pure (hitsOf SourceNode.schema selector .ofSource (.root text tree))

def outcomeOf (surroundings : Surroundings m) (config : Config) (selector : Selector)
    (file : InputFile) : m FileOutcome := do
  match ← hitsIn surroundings config selector file with
  | .ok hits => pure ⟨file.path, .ok hits⟩
  | .error error => pure ⟨file.path, .error error.chain⟩

/-- Runs a query: the settings come first, then the selector, then the inputs, then each file. -/
def runQuery (surroundings : Surroundings m) (request : QueryRequest) : m Output := do
  match ← loadSettings surroundings request.config? with
  | .error chain => pure (failed chain)
  | .ok config => do
      let style : ReportStyle := {
        format := request.format?.getD config.format
        countOnly := request.countOnly
        colored := surroundings.colored && !request.plain && config.color }
      match ← loadOrigin surroundings request.selector with
      | .error chain => pure (failed chain)
      | .ok selector => do
          match ← InputFile.collect surroundings.files request.dialect? request.inputs with
          | .error chain => pure (failed chain)
          | .ok [] => pure (failed ["no .json or .rs inputs found"])
          | .ok inputs => do
              let outcomes ← inputs.mapM (outcomeOf surroundings config selector)
              pure (report style outcomes)

/-- The lines for the fragments of a selector, with numbers from one on. -/
def fragmentLines (colored : Bool) : Nat → List Selector → List String
  | _, [] => []
  | index, fragment :: rest =>
      (Style.bold.paint colored ("[" ++ Nat.repr (index + 1) ++ "]") ++ " " ++
          fragment.encode.compact) ::
        fragmentLines colored (index + 1) rest

/-- The list of the fragments that a selector reports. -/
def subjectLines (colored : Bool) (selector : Selector) : List String :=
  match selector.subjects with
  | [] => [Style.dim.paint colored "No subject markers: the matched node itself is reported"]
  | fragments => fragmentLines colored 0 fragments

/-- The line that tells of a valid selector. -/
def checkLine (colored : Bool) (selector : Selector) : String :=
  Style.green.paint colored "✓" ++ " valid '" ++ selector.tag ++ "' selector (" ++
    Nat.repr selector.subjects.length ++ " subject fragment(s))"

/-- Runs a command that only needs a selector. -/
def runOnSelector (surroundings : Surroundings m) (origin : SelectorOrigin)
    (lines : Selector → List String) : m Output := do
  match ← loadOrigin surroundings origin with
  | .error chain => pure (failed chain)
  | .ok selector => pure ⟨0, terminated (lines selector), ""⟩

def run (surroundings : Surroundings m) : Command → m Output
  | .query request => runQuery surroundings request
  | .subjects origin => runOnSelector surroundings origin (subjectLines surroundings.colored)
  | .check origin =>
      runOnSelector surroundings origin fun selector => [checkLine surroundings.colored selector]

/-- A short account of the command line. -/
def usageText : String :=
  "Usage: astsel [-v] query (-s PATH | -i JSON) [-l auto|json|rust] [-c PATH] [-f text|json]\n" ++
  "                         [--count] [--no-color] PATH...\n" ++
  "       astsel [-v] subjects (-s PATH | -i JSON)\n" ++
  "       astsel [-v] check (-s PATH | -i JSON)\n"

/-- The output for a command line without a command to run. -/
def Refusal.output : Refusal → Output
  | .help => ⟨0, "Run CSS-like selectors over syntax trees\n\n" ++ usageText, ""⟩
  | .version => ⟨0, "astsel 0.1.0\n", ""⟩
  | .usage => ⟨2, "", "error: the arguments are not understood\n\n" ++ usageText⟩

def runWords (surroundings : Surroundings m) (words : List String) : m Output :=
  match ofWords words with
  | .ok command => run surroundings command
  | .error refusal => pure refusal.output

end Command

end SyntaxQuery
