import SyntaxQuery.Query.Matching
import SyntaxQuery.Selector.Subjects
import SyntaxQuery.Tree.Ancestry
import SyntaxQuery.Tree.Traversal

/-!
Contract: the nodes that a selector reports from a whole tree.

Owns:
- what one match contributes, with and without marked subjects;
- the state of a query during a traversal, with the ancestors of the present node;
- the outcome of a query.

Does not own: traversal and testing.
-/

namespace SyntaxQuery

variable {ν : Type} [SyntaxNode ν]

/-- The ancestors that a test accepts, each tested with the ancestors above it, nearest first. -/
def acceptedAncestors (test : ν → List ν → Bool) : List ν → List ν
  | [] => []
  | ancestor :: above =>
      let others := acceptedAncestors test above
      if test ancestor above then ancestor :: others else others

/-- What a match contributes for one fragment: the node, if the fragment matches it, and then every
ancestor that the fragment matches. -/
def fragmentReports (schema : Schema ν) (node : ν) (ancestry : List ν) (fragment : Selector) :
    List ν :=
  let above := acceptedAncestors (fragment.test schema) ancestry
  if fragment.test schema node ancestry then node :: above else above

/-- What a match contributes: the node itself when nothing is marked, and otherwise what each
fragment contributes, in turn. -/
def matchReports (schema : Schema ν) (fragments : List Selector) (node : ν) (ancestry : List ν) :
    List ν :=
  match fragments with
  | [] => [node]
  | fragments => fragments.flatMap (fragmentReports schema node ancestry)

/-- A query in the course of a traversal: the ancestors of the present node, and what has been
reported so far, last first. -/
structure QueryState (ν : Type) where
  ancestry : AncestryStack ν
  reported : List ν

namespace QueryState

def initial : QueryState ν := ⟨.empty, []⟩

/-- The effect of an event. A node's parent joins the ancestry when the node is entered and leaves
it with the node; at the root there is nothing to add or to take away. -/
def visit (schema : Schema ν) (selector : Selector) (fragments : List Selector)
    (state : QueryState ν) : Event ν → QueryState ν
  | .enter node parent? =>
      let ancestry :=
        match parent? with
        | some parent => state.ancestry.push parent
        | none => state.ancestry
      if selector.test schema node ancestry.nodes then
        ⟨ancestry,
          (matchReports schema fragments node ancestry.nodes).reverse ++ state.reported⟩
      else ⟨ancestry, state.reported⟩
  | .leave _ _ => ⟨state.ancestry.pop.2, state.reported⟩

end QueryState

/-- The nodes that a selector reports from the tree below a root, in the order of traversal. A node
may be reported more than once, and a refusal by the schema leaves no partial answer. -/
def matchTree (schema : Schema ν) (selector : Selector) (root : ν) :
    Except UnknownNodeType (List ν) :=
  let outcome := traverse schema (QueryState.visit schema selector selector.subjects) root .initial
  match outcome.refusal? with
  | some refusal => .error refusal
  | none => .ok outcome.state.reported.reverse

/-- The nodes that a selector which may be missing reports; without one there are none. -/
def matchOptional (schema : Schema ν) (selector? : Option Selector) (root : ν) :
    Except UnknownNodeType (List ν) :=
  match selector? with
  | none => .ok []
  | some selector => matchTree schema selector root

end SyntaxQuery
