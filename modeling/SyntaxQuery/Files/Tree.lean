import SyntaxQuery.Files.System

/-!
Contract: a file system in memory.

Owns: trees of directories and files, the resolution of paths in them, and the file system that a
tree and a working directory make up.
Does not own: what files hold.
-/

namespace SyntaxQuery

/-- A file with its bytes, or a directory with its entries. -/
inductive FileTree where
  | file (content : ByteArray)
  | directory (entries : List (String × FileTree))

namespace FileTree

def empty : FileTree := .directory []

/-- The entry of a directory. -/
def child? (name : String) : List (String × FileTree) → Option FileTree
  | [] => none
  | (first, tree) :: rest => if first = name then some tree else child? name rest

/-- The entries with one set: in its old place if the name is there, else at the end. -/
def putEntry (name : String) (tree : FileTree) :
    List (String × FileTree) → List (String × FileTree)
  | [] => [(name, tree)]
  | (first, old) :: rest =>
      if first = name then (name, tree) :: rest else (first, old) :: putEntry name tree rest

/-- Puts a tree at the end of some names, making the directories on the way. A directory that is
already there is kept, and so is a file in the way. -/
def insert (added : FileTree) : List String → FileTree → FileTree
  | [], .directory entries => .directory entries
  | [], .file _ => added
  | _ :: _, .file content => .file content
  | [name], .directory entries =>
      match added, child? name entries with
      | .directory _, some (.directory held) => .directory (putEntry name (.directory held) entries)
      | _, _ => .directory (putEntry name added entries)
  | name :: rest, .directory entries =>
      let below := (child? name entries).getD empty
      .directory (putEntry name (insert added rest below) entries)

/-- What stands at the end of some names. -/
def at? : List String → FileTree → Option FileTree
  | [], tree => some tree
  | name :: rest, .directory entries => (child? name entries).bind (at? rest)
  | _ :: _, .file _ => none

/-- Follows the segments of a path from a place, given as names from the root. Every segment needs a
directory to start from, and the root is its own parent. -/
def resolveFrom (root : FileTree) : List String → List String → Except ReadError FileTree
  | place, [] =>
      match at? place root with
      | some tree => .ok tree
      | none => .error .notFound
  | place, segment :: rest =>
      match at? place root with
      | none => .error .notFound
      | some (.file _) => .error .notADirectory
      | some (.directory _) =>
          if segment = "" ∨ segment = "." then resolveFrom root place rest
          else if segment = ".." then resolveFrom root place.dropLast rest
          else resolveFrom root (place ++ [segment]) rest

/-- What stands at a path, relative paths starting from the working directory. -/
def resolve (root : FileTree) (workingDirectory : List String) (path : String) :
    Except ReadError FileTree :=
  match (Text.splitAt '/' path.toList).map String.ofList with
  | [] => .error .notFound
  | [""] => .error .notFound
  | "" :: segments => resolveFrom root [] segments
  | segments => resolveFrom root workingDirectory segments

mutual

/-- The files of a tree, each given by the names that lead to it from the root. -/
def fileNames : FileTree → List (List String)
  | .file _ => [[]]
  | .directory entries => entryFileNames entries

/-- The files of several entries, each given by the names that lead to it. -/
def entryFileNames : List (String × FileTree) → List (List String)
  | [] => []
  | (name, tree) :: rest =>
      (fileNames tree).map (fun names => name :: names) ++ entryFileNames rest

end

/-- The file system of a tree, with the working directory given as names from the root. -/
def system (root : FileTree) (workingDirectory : List String) : FileSystem Id where
  read path :=
    match resolve root workingDirectory path with
    | .ok (.file content) => .ok content
    | .ok (.directory _) => .error .isADirectory
    | .error cause => .error cause
  isFile path :=
    match resolve root workingDirectory path with
    | .ok (.file _) => true
    | _ => false
  isDirectory path :=
    match resolve root workingDirectory path with
    | .ok (.directory _) => true
    | _ => false
  filesBelow path :=
    match resolve root workingDirectory path with
    | .ok (.directory entries) => .ok (entryFileNames entries)
    | _ => .ok []
  workingDirectory := String.join (workingDirectory.map fun name => "/" ++ name)

end FileTree

end SyntaxQuery
