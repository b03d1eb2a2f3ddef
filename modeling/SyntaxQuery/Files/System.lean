import SyntaxQuery.Config.Decode
import SyntaxQuery.Files.Path
import SyntaxQuery.Json.Reader
import SyntaxQuery.Selector.Decode
import SyntaxQuery.Source.Node

/-!
Contract: reading selectors, documents, source and settings from files.

Owns:
- the operations of a file system, over any way of carrying them out;
- the causes of failure and the chain of messages of each;
- the search for the nearest settings.

Does not own: any particular file system.
-/

namespace SyntaxQuery

/-- Why a file cannot be read as text. -/
inductive ReadError where
  | notFound
  | notADirectory
  | isADirectory
  | notUtf8
  | other (message : String)
deriving DecidableEq, Repr

def ReadError.message : ReadError → String
  | .notFound => "No such file or directory (os error 2)"
  | .notADirectory => "Not a directory (os error 20)"
  | .isADirectory => "Is a directory (os error 21)"
  | .notUtf8 => "stream did not contain valid UTF-8"
  | .other message => message

/-- A file system whose operations are carried out in `m`. -/
structure FileSystem (m : Type → Type) where
  /-- The bytes of a file. -/
  read : String → m (Except ReadError ByteArray)
  isFile : String → m Bool
  isDirectory : String → m Bool
  /-- The files below a directory, at any depth, each given by the names that lead to it; or, if
  some entry cannot be listed, the messages of that error. -/
  filesBelow : String → m (Except (List String) (List (List String)))
  /-- The absolute path of the directory that relative paths start from. -/
  workingDirectory : String

/-- A text from bytes. -/
def decodeUtf8 (bytes : ByteArray) : Except ReadError String :=
  match String.fromUTF8? bytes with
  | some text => .ok text
  | none => .error .notUtf8

/-- Why a selector cannot be loaded. -/
inductive SelectorLoadError where
  | unreadable (path : String) (cause : ReadError)
  | notJson
  | invalid (error : SelectorError)

/-- The wording of what is wrong with a text that is not JSON. -/
def notJsonMessage : String := "the text is not a JSON value"

/-- The messages of an error, from the outermost to its last cause. -/
def SelectorLoadError.chain : SelectorLoadError → List String
  | .unreadable path cause => ["I/O error reading " ++ path ++ ": " ++ cause.message, cause.message]
  | .notJson => ["invalid selector JSON: " ++ notJsonMessage, notJsonMessage]
  | .invalid error => [error.message]

/-- Why there is no tree for a source text. -/
inductive GrammarError where
  /-- The parser does not take the grammar. -/
  | notSet
  /-- The parser gives up on the text. -/
  | gaveUp
deriving DecidableEq, Repr

def GrammarError.message : GrammarError → String
  | .notSet => "failed to set language for parser"
  | .gaveUp => "failed to parse source code"

/-- Why a document or source file cannot be queried. -/
inductive TreeLoadError where
  | unreadable (path : String) (cause : ReadError)
  | notJson
  | notANode
  | notParsed (error : GrammarError)
  | refused (refusal : UnknownNodeType)

/-- The messages of an error, from the outermost to its last cause. -/
def TreeLoadError.chain : TreeLoadError → List String
  | .unreadable path cause => ["I/O error reading " ++ path ++ ": " ++ cause.message, cause.message]
  | .notJson => ["invalid JSON document: " ++ notJsonMessage, notJsonMessage]
  | .notANode => [DocumentNode.rootRefusal]
  | .notParsed error => [error.message]
  | .refused refusal => [refusal.message]

/-- Why settings cannot be loaded; a path is known when they come from a file. -/
inductive ConfigError where
  | unreadable (path : String) (cause : ReadError)
  | malformed (path? : Option String)
  | invalid (path? : Option String) (issues : List ConfigIssue)

/-- The wording of several issues, each on a line of its own. -/
def issueLines (issues : List ConfigIssue) : String :=
  "\n".intercalate (issues.map ConfigIssue.message)

/-- The wording of what is wrong with a text that does not give settings. -/
def notTomlMessage : String := "the text is not a TOML document of settings"

/-- The messages of an error, from the outermost to its last cause. -/
def ConfigError.chain : ConfigError → List String
  | .unreadable path cause =>
      ["failed to read astsel config " ++ path ++ ": " ++ cause.message, cause.message]
  | .malformed path? =>
      [path?.getD "config" ++ " is not valid TOML: " ++ notTomlMessage, notTomlMessage]
  | .invalid path? issues =>
      let place :=
        match path? with
        | some path => " " ++ path
        | none => ""
      ["invalid astsel config" ++ place ++ ":\n" ++ issueLines issues, issueLines issues]

def ConfigError.message (error : ConfigError) : String :=
  error.chain.headD ""

/-- The error of a text that does not give settings. -/
def ConfigError.ofFault (path? : Option String) : Config.Fault → ConfigError
  | .malformed => .malformed path?
  | .invalid issues => .invalid path? issues

/-- The selector that a JSON text describes, its patterns built by a library. -/
def loadSelector (build : Regex.Builder) (text : String) (cache : RegexCache) :
    Except SelectorLoadError Selector × RegexCache :=
  match Json.parse? text with
  | none => (.error .notJson, cache)
  | some value =>
      match (Selector.decode value).runOn build cache with
      | (.ok selector, cache) => (.ok selector, cache)
      | (.error error, cache) => (.error (.invalid error), cache)

/-- The root of the document that a JSON text holds. -/
def loadDocument (text : String) : Except TreeLoadError DocumentNode :=
  match Json.parse? text with
  | none => .error .notJson
  | some value =>
      match DocumentNode.root? value with
      | none => .error .notANode
      | some root => .ok root

/-- The settings that a text describes to a reader of TOML. -/
def loadConfig (read : Toml.Reader) (path? : Option String) (text : String) :
    Except ConfigError Config :=
  match Config.parse read text with
  | .ok config => .ok config
  | .error fault => .error (.ofFault path? fault)

namespace FileSystem

variable {m : Type → Type} [Monad m]

def readText (files : FileSystem m) (path : String) : m (Except ReadError String) := do
  match ← files.read path with
  | .ok bytes => pure (decodeUtf8 bytes)
  | .error cause => pure (.error cause)

def readSelector (files : FileSystem m) (build : Regex.Builder) (path : String)
    (cache : RegexCache) : m (Except SelectorLoadError Selector × RegexCache) := do
  match ← files.readText path with
  | .ok text => pure (loadSelector build text cache)
  | .error cause => pure (.error (.unreadable path cause), cache)

/-- The root of the document in a JSON file. -/
def readDocument (files : FileSystem m) (path : String) : m (Except TreeLoadError DocumentNode) := do
  match ← files.readText path with
  | .ok text => pure (loadDocument text)
  | .error cause => pure (.error (.unreadable path cause))

def readSource (files : FileSystem m) (path : String) : m (Except TreeLoadError String) := do
  match ← files.readText path with
  | .ok text => pure (.ok text)
  | .error cause => pure (.error (.unreadable path cause))

def readConfig (files : FileSystem m) (read : Toml.Reader) (path : String) :
    m (Except ConfigError Config) := do
  match ← files.readText path with
  | .ok text => pure (loadConfig read (some path) text)
  | .error cause => pure (.error (.unreadable path cause))

/-- The first of several paths that is a file. -/
def firstFile? (files : FileSystem m) : List String → m (Option String)
  | [] => pure none
  | path :: rest => do
      if ← files.isFile path then pure (some path) else files.firstFile? rest

/-- The name of the file that settings are looked for in. -/
def configFileName : String := "astsel.toml"

/-- The path of the nearest settings, in a directory or one above it. -/
def findConfig? (files : FileSystem m) (start : String) : m (Option String) :=
  files.firstFile? ((Path.ancestors start).map fun directory => Path.join directory configFileName)

/-- The nearest settings and where they stand, or the defaults if there are none. -/
def nearestConfig (files : FileSystem m) (read : Toml.Reader) (start : String) :
    m (Except ConfigError (Config × Option String)) := do
  match ← files.findConfig? start with
  | none => pure (.ok (.default, none))
  | some path => do
      match ← files.readConfig read path with
      | .ok config => pure (.ok (config, some path))
      | .error error => pure (.error error)

end FileSystem

end SyntaxQuery
