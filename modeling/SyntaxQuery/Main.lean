import SyntaxQuery.Command.Run
import SyntaxQuery.Expression.Reader
import SyntaxQuery.Source.Tokens
import SyntaxQuery.Toml.Reader

/-!
Contract: the command line of the program.

Owns: the surroundings that the operating system provides, what stands for libraries in them, and
the exit status.
Does not own: anything that a command does.

Two things that a command may ask for are not provided. Directories are not listed, so a directory
among the inputs counts as empty; and there is no grammar, so program source is read by its tokens.
Patterns are built as expressions of `SyntaxQuery.Expression`, and settings read by `Toml.read?`.
All of these are fields of `Surroundings` and can be provided without touching a command.
-/

namespace SyntaxQuery.Terminal

/-- The number by which the operating system reports a cause, whether it was negated or not. -/
def isCode (code : UInt32) (number : UInt32) : Bool :=
  code == number || code == 0 - number

/-- The cause of a failure to read, from what the operating system reports. -/
def causeOf : IO.Error → ReadError
  | .noFileOrDirectory _ _ _ => .notFound
  | .inappropriateType _ code details =>
      if isCode code 20 then .notADirectory
      else if isCode code 21 then .isADirectory
      else .other details
  | error => .other (toString error)

def readFile (path : String) : IO (Except ReadError ByteArray) := do
  try
    return .ok (← IO.FS.readBinFile path)
  catch error =>
    return .error (causeOf error)

def isDirectory (path : String) : IO Bool := do
  match ← readFile path with
  | .error .isADirectory => return true
  | _ => return false

/-- Whether a path leads to a file, which may be one that cannot be read. -/
def isFile (path : String) : IO Bool := do
  match ← readFile path with
  | .ok _ => return true
  | .error (.other _) => return true
  | .error _ => return false

/-- All bytes of a stream, after those that are already held. -/
partial def readBytes (stream : IO.FS.Stream) (held : ByteArray) : IO ByteArray := do
  let chunk ← stream.read 65536
  if chunk.isEmpty then return held else readBytes stream (held ++ chunk)

/-- Whether a variable of the environment is set to something other than zero; without it, the
default holds. -/
def isOn (name : String) (default : Bool) : IO Bool := do
  match ← IO.getEnv name with
  | none => return default
  | some value => return value != "0"

/-- Whether output is colored: when that is forced, or when a terminal shows it and nothing forbids
it. -/
def isColored : IO Bool := do
  if ← isOn "CLICOLOR_FORCE" false then return true
  else if (← IO.getEnv "NO_COLOR").isSome then return false
  else
    let shown ← (← IO.getStdout).isTty
    return shown && (← isOn "CLICOLOR" true)

/-- The surroundings that the operating system provides. -/
def surroundings : IO (Surroundings IO) := do
  let workingDirectory := toString (← IO.currentDir)
  let colored ← isColored
  return {
    files := {
      read := readFile
      isFile := isFile
      isDirectory := isDirectory
      filesBelow := fun _ => return .ok []
      workingDirectory := workingDirectory }
    standardInput := do readBytes (← IO.getStdin) .empty
    parse := fun text => return .ok (.ofTokens text)
    buildRegex := Expression.build
    readToml := Toml.read?
    colored := colored }

end SyntaxQuery.Terminal

/-- Runs the command line and exits with its status. -/
def main (arguments : List String) : IO UInt32 := do
  let output ← SyntaxQuery.Command.runWords (← SyntaxQuery.Terminal.surroundings) arguments
  IO.print output.standardOutput
  IO.eprint output.standardError
  return output.status.toUInt32
