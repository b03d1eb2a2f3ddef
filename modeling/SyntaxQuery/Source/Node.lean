import SyntaxQuery.Tree.Node

/-!
Contract: concrete syntax trees of program source as syntax trees.

Owns:
- the trees that a grammar produces, with named nodes and anonymous tokens;
- grammar fields and the fields that every node has beside them;
- the source text of a node, and the count of syntax errors.

Does not own: how source text is parsed.
-/

namespace SyntaxQuery

/-- What a grammar records about a node. -/
structure SyntaxInfo where
  kind : String
  /-- The grammar field under which the node stands in its parent. -/
  field? : Option String
  /-- Anonymous tokens are not named. -/
  named : Bool
  /-- The byte range in the source. -/
  start : Nat
  stop : Nat
  /-- The zero-based line of the first byte. -/
  row : Nat
  isError : Bool
  isMissing : Bool
  /-- The node or one below it is an error or missing. -/
  hasError : Bool
deriving DecidableEq, Repr

/-- A concrete syntax tree. -/
inductive SyntaxTree where
  | branch (info : SyntaxInfo) (children : List SyntaxTree)

namespace SyntaxTree

/-- What is recorded about the root. -/
def info : SyntaxTree → SyntaxInfo
  | .branch info _ => info

def children : SyntaxTree → List SyntaxTree
  | .branch _ children => children

mutual

def size : SyntaxTree → Nat
  | .branch _ children => 1 + sizes children

def sizes : List SyntaxTree → Nat
  | [] => 0
  | tree :: rest => size tree + sizes rest

end

/-- A tree is no larger than several trees among which it is. -/
theorem size_le_sizes {tree : SyntaxTree} {trees : List SyntaxTree} (member : tree ∈ trees) :
    tree.size ≤ sizes trees := by
  induction trees with
  | nil => cases member
  | cons first rest inductionHypothesis =>
      simp only [sizes]
      rcases List.mem_cons.1 member with same | later
      · subst same; omega
      · have smaller := inductionHypothesis later
        omega

/-- A child is smaller than its parent. -/
theorem size_lt_of_mem_children {tree child : SyntaxTree} (member : child ∈ tree.children) :
    child.size < tree.size := by
  cases tree with
  | branch info children =>
      have smaller : child.size ≤ sizes children := size_le_sizes member
      simp only [size]
      omega

/-- Errors and missing nodes are what a count of syntax errors counts. -/
def isFaulty (tree : SyntaxTree) : Bool :=
  tree.info.isError || tree.info.isMissing

mutual

/-- The number of errors and missing nodes, found without entering a tree that has none. -/
def errorCount : SyntaxTree → Nat
  | .branch info children =>
      let own := if info.isError || info.isMissing then 1 else 0
      if info.hasError then own + errorCounts children else own

/-- The number of errors and missing nodes of several trees. -/
def errorCounts : List SyntaxTree → Nat
  | [] => 0
  | tree :: rest => errorCount tree + errorCounts rest

end

end SyntaxTree

/-- The stretch of a text between two byte offsets, if both lie at the edge of a character. `passed`
counts the bytes before `text`. -/
def sliceFrom? (start stop : Nat) : Nat → List Char → Option (List Char)
  | passed, [] => if passed = start ∧ start = stop then some [] else none
  | passed, character :: rest =>
      if passed < start then sliceFrom? start stop (passed + character.utf8Size) rest
      else if passed = start then
        if start = stop then some []
        else takeBytes (stop - start) (character :: rest)
      else none
where
  /-- The characters that make up the first `count` bytes of a text. -/
  takeBytes : Nat → List Char → Option (List Char)
    | count, [] => if count = 0 then some [] else none
    | count, character :: rest =>
        if count = 0 then some []
        else if character.utf8Size ≤ count then
          (takeBytes (count - character.utf8Size) rest).map (character :: ·)
        else none

/-- The stretch of a text between two byte offsets; empty where there is none. -/
def sliceBytes (text : String) (start stop : Nat) : String :=
  match sliceFrom? start stop 0 text.toList with
  | some characters => String.ofList characters
  | none => ""

/-- A handle to a node of a source tree: the child indices that lead to it from the root, the tree
below it, and the source. -/
structure SourceNode where
  position : List Nat
  tree : SyntaxTree
  source : String

namespace SourceNode

/-- The handle to the root of a tree. -/
def root (source : String) (tree : SyntaxTree) : SourceNode :=
  ⟨[], tree, source⟩

def text (node : SourceNode) : String :=
  sliceBytes node.source node.tree.info.start node.tree.info.stop

/-- Handles to sibling trees, from an index on. -/
def handles (node : SourceNode) : Nat → List SyntaxTree → List SourceNode
  | _, [] => []
  | index, tree :: rest =>
      ⟨node.position ++ [index], tree, node.source⟩ :: handles node (index + 1) rest

/-- Handles to all children, anonymous tokens among them. -/
def all (node : SourceNode) : List SourceNode :=
  node.handles 0 node.tree.children

def inField (node : SourceNode) (name : String) : List SourceNode :=
  node.all.filter fun child => child.tree.info.field? == some name

/-- The field that lists the named children. -/
def childrenField : String := "children"

/-- The fields that every node has where the grammar has none of that name. -/
def commonField (node : SourceNode) (name : String) : Value SourceNode :=
  if name = childrenField then
    .list ((node.all.filter fun child => child.tree.info.named).map Value.node)
  else if name = "text" then .string node.text
  else if name = "start" then .number (floatOfInt node.tree.info.start)
  else if name = "end" then .number (floatOfInt node.tree.info.stop)
  else if name = "line" then .number (floatOfInt (node.tree.info.row + 1))
  else .absent

/-- What a field holds. A grammar field with one node holds it, one with several holds their list. -/
def field (node : SourceNode) (name : String) : Value SourceNode :=
  match node.inField name with
  | [] => node.commonField name
  | [child] => .node child
  | several => .list (several.map Value.node)

/-- The tree of a handle among handles to siblings is one of the siblings. -/
theorem tree_mem_of_mem_handles {node child : SourceNode} {index : Nat} {trees : List SyntaxTree}
    (member : child ∈ node.handles index trees) : child.tree ∈ trees := by
  induction trees generalizing index with
  | nil => cases member
  | cons tree rest inductionHypothesis =>
      simp only [handles] at member
      rcases List.mem_cons.1 member with same | later
      · subst same; exact List.mem_cons_self
      · exact List.mem_cons_of_mem _ (inductionHypothesis later)

/-- The nodes of a list of nodes are the nodes themselves. -/
theorem nodes_list_map (nodes : List SourceNode) :
    (Value.list (nodes.map Value.node)).nodes = nodes := by
  simp only [Value.nodes, List.filterMap_map]
  induction nodes with
  | nil => rfl
  | cons first rest inductionHypothesis => simp [Value.node?, inductionHypothesis]

/-- The nodes that a field holds are children. -/
theorem mem_all_of_mem_field (node : SourceNode) (name : String) (child : SourceNode)
    (held : child ∈ (node.field name).nodes) : child ∈ node.all := by
  have listed : ∀ keep : SourceNode → Bool, child ∈ node.all.filter keep → child ∈ node.all :=
    fun _ member => (List.mem_filter.1 member).1
  unfold field at held
  split at held
  · unfold commonField at held
    split at held
    · rw [nodes_list_map] at held
      exact listed _ held
    · repeat' split at held
      all_goals simp [Value.nodes] at held
  · next only found =>
      simp only [Value.nodes, List.mem_singleton] at held
      subst held
      exact listed _ (show child ∈ node.inField name by rw [found]; exact List.mem_cons_self)
  · next several =>
      rw [nodes_list_map] at held
      exact listed _ held

/-- A node that a field holds is smaller than the node. -/
theorem size_lt_of_mem_field (node : SourceNode) (name : String) (child : SourceNode)
    (held : child ∈ (node.field name).nodes) : child.tree.size < node.tree.size :=
  SyntaxTree.size_lt_of_mem_children
    (tree_mem_of_mem_handles (mem_all_of_mem_field node name child held))

instance : SyntaxNode SourceNode where
  kind node := node.tree.info.kind
  field := field
  same left right := left.position == right.position
  span? node := some (node.tree.info.start, node.tree.info.stop)
  size node := node.tree.size
  size_lt_of_mem_field := size_lt_of_mem_field

/-- A character of a kind as it stands between quotes. -/
def escapeKindChar (character : Char) : List Char :=
  match character with
  | '"' => ['\\', '"']
  | '\\' => ['\\', '\\']
  | '\n' => ['\\', 'n']
  | '\r' => ['\\', 'r']
  | '\t' => ['\\', 't']
  | '\x00' => ['\\', '0']
  | other => [other]

/-- A description of a node for diagnostics: its kind and byte range. -/
def debugText (node : SourceNode) : String :=
  let info := node.tree.info
  "TsNode \x7b kind: \"" ++ String.ofList (info.kind.toList.flatMap escapeKindChar) ++ "\", range: " ++
    Nat.repr info.start ++ ".." ++ Nat.repr info.stop ++ " \x7d"

/-- The named children are the children of a source node. -/
def schema : Schema SourceNode := fun _ => .ok [childrenField]

end SourceNode

end SyntaxQuery
