/-!
Contract: the ancestors of the node that a traversal stands at.

Owns: a stack that is read from its top, the nearest ancestor first.
Does not own: when ancestors are pushed and popped.
-/

namespace SyntaxQuery

/-- The ancestors of a node, the parent first. -/
structure AncestryStack (ν : Type) where
  nodes : List ν

namespace AncestryStack

variable {ν : Type}

def empty : AncestryStack ν := ⟨[]⟩

/-- The ancestry of a child of `parent`, whose own ancestry is given. -/
def push (stack : AncestryStack ν) (parent : ν) : AncestryStack ν :=
  ⟨parent :: stack.nodes⟩

/-- The nearest ancestor and the ancestry without it; an empty ancestry stays empty. -/
def pop (stack : AncestryStack ν) : Option ν × AncestryStack ν :=
  match stack.nodes with
  | [] => (none, stack)
  | nearest :: rest => (some nearest, ⟨rest⟩)

def size (stack : AncestryStack ν) : Nat :=
  stack.nodes.length

def isEmpty (stack : AncestryStack ν) : Bool :=
  stack.nodes.isEmpty

/-- Popping takes back what was pushed. -/
theorem pop_push (stack : AncestryStack ν) (parent : ν) :
    (stack.push parent).pop = (some parent, stack) := rfl

end AncestryStack

end SyntaxQuery
