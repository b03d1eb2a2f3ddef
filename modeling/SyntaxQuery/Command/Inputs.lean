import SyntaxQuery.Command.Request
import SyntaxQuery.Files.System

/-!
Contract: the inputs of a query as files with their dialects.

Owns: the choice of a dialect, and the search for files in directories.
Does not own: reading the files.
-/

namespace SyntaxQuery

structure InputFile where
  path : String
  dialect : Dialect
deriving DecidableEq, Repr

/-- The dialect that the extension of a path shows. -/
def Dialect.ofExtension? (path : String) : Option Dialect :=
  match Path.extension? path with
  | some "json" => some .document
  | some "rs" => some .source
  | _ => none

namespace InputFile

/-- A file that is named as an input; a dialect that was asked for overrides its extension. -/
def named? (dialect? : Option Dialect) (path : String) : Option InputFile :=
  (dialect?.or (Dialect.ofExtension? path)).map fun dialect => ⟨path, dialect⟩

/-- A file that was found in a directory. Its extension decides, and a dialect that was asked for
leaves out the files of the other. -/
def found? (dialect? : Option Dialect) (path : String) : Option InputFile := do
  let dialect ← Dialect.ofExtension? path
  if dialect?.all (· == dialect) then some ⟨path, dialect⟩ else none

/-- The files of a directory, given by the names below it, in the order of their paths. -/
def inDirectory (dialect? : Option Dialect) (directory : String) (below : List (List String)) :
    List InputFile :=
  let paths := below.map fun names => names.foldl Path.join directory
  (paths.filterMap (found? dialect?)).mergeSort fun left right =>
    !Path.isBefore right.path left.path

/-- The wording for a named file without a dialect. -/
def dialectUnknown (path : String) : String :=
  "cannot infer dialect of " ++ path ++ " (use --lang json|rust)"

variable {m : Type → Type} [Monad m]

/-- The files that an input stands for; a chain of messages if it is a directory that cannot be
listed, or a named file without a dialect. -/
def expand (files : FileSystem m) (dialect? : Option Dialect) (path : String) :
    m (Except (List String) (List InputFile)) := do
  if ← files.isDirectory path then
    match ← files.filesBelow path with
    | .ok below => pure (.ok (inDirectory dialect? path below))
    | .error chain => pure (.error chain)
  else
    match named? dialect? path with
    | some file => pure (.ok [file])
    | none => pure (.error [dialectUnknown path])

/-- The files that inputs stand for, in order; the chain of messages of the first failure. -/
def collect (files : FileSystem m) (dialect? : Option Dialect) :
    List String → m (Except (List String) (List InputFile))
  | [] => pure (.ok [])
  | path :: rest => do
      match ← expand files dialect? path with
      | .error chain => pure (.error chain)
      | .ok found => do
          match ← collect files dialect? rest with
          | .error chain => pure (.error chain)
          | .ok others => pure (.ok (found ++ others))

end InputFile

end SyntaxQuery
