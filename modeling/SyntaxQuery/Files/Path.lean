import SyntaxQuery.Text.Segments
import SyntaxQuery.Tree.Value

/-!
Contract: file paths as texts.

Owns: the parent, the ancestors, the last name and its extension, joining, and the order of paths.
Does not own: what stands at a path.
-/

namespace SyntaxQuery.Path

/-- A path, given from its end, without the slashes and single dots at that end. A root stays. -/
def trimTail : List Char → List Char
  | '/' :: rest => if rest.all (· == '/') then ['/'] else trimTail rest
  | '.' :: '/' :: rest => trimTail ('/' :: rest)
  | text => text

/-- The last segment of a path and the text before it, given from the end, or nothing for an empty
path or a root. -/
def lastSegment? (path : String) : Option (List Char × List Char) :=
  match trimTail path.toList.reverse with
  | [] => none
  | ['/'] => none
  | text => some ((text.takeWhile (· != '/')).reverse, text.dropWhile (· != '/'))

/-- The path without its last segment; an empty path and a root have no parent. -/
def parent? (path : String) : Option String :=
  (lastSegment? path).map fun (_, before) => String.ofList (trimTail before).reverse

/-- A path and the paths above it, the path first; `fuel` bounds their number. -/
def ancestorsWith : Nat → String → List String
  | 0, path => [path]
  | fuel + 1, path =>
      match parent? path with
      | none => [path]
      | some parent => path :: ancestorsWith fuel parent

/-- A path and the paths above it. Each has fewer characters than the one before. -/
def ancestors (path : String) : List String :=
  ancestorsWith path.length path

/-- The last segment, unless it only points to a directory. -/
def fileName? (path : String) : Option (List Char) :=
  match lastSegment? path with
  | none => none
  | some (name, _) => if name = ['.'] ∨ name = ['.', '.'] then none else some name

/-- What follows the last dot of a path's last segment. A dot in front makes no extension. -/
def extension? (path : String) : Option String := do
  let name ← fileName? path
  match (name.reverse).dropWhile (· != '.') with
  | [] => none
  | [_] => none
  | _ :: _ => some (String.ofList (name.reverse.takeWhile (· != '.')).reverse)

/-- The path of a name inside a directory. -/
def join (directory name : String) : String :=
  if name.startsWith "/" ∨ directory.isEmpty then name
  else if directory.endsWith "/" then directory ++ name
  else directory ++ "/" ++ name

/-- The segments that count: empty ones and single dots count only at the very start. -/
def components (path : String) : List String :=
  match Text.splitAt '/' path.toList with
  | [] => []
  | first :: rest =>
      let counting := rest.filter fun segment => !segment.isEmpty && segment != ['.']
      let start :=
        if first.isEmpty ∧ rest = [] then []
        else if first.isEmpty then ["/"]
        else [String.ofList first]
      start ++ counting.map String.ofList

/-- The order of lists of segments, segment by segment. -/
def compareComponents : List String → List String → Ordering
  | [], [] => .eq
  | [], _ :: _ => .lt
  | _ :: _, [] => .gt
  | left :: leftRest, right :: rightRest =>
      match Primitive.compareTexts left.toList right.toList with
      | .eq => compareComponents leftRest rightRest
      | order => order

/-- Whether a path comes before another. -/
def isBefore (left right : String) : Bool :=
  compareComponents (components left) (components right) == .lt

end SyntaxQuery.Path
