import SyntaxQuery.Tree.Traversal

/-!
Contract: the order of a depth-first traversal, by recursion on the tree.

Owns: the recursive walk, whose events are those of the loop in `Tree.Traversal`.
Does not own: the loop.
-/

namespace SyntaxQuery

variable {ν : Type} [SyntaxNode ν]

/-- What several walks yield one after another, up to the first refusal. -/
def joinWalks {α : Type} : List (Outcome (List α)) → Outcome (List α)
  | [] => ⟨[], none⟩
  | first :: rest =>
      match first.refusal? with
      | some refusal => ⟨first.state, some refusal⟩
      | none =>
          let others := joinWalks rest
          ⟨first.state ++ others.state, others.refusal?⟩

/-- The events of a walk below a node: enter it, walk its children in turn, leave it. A refusal ends
the walk, so that neither the refused node nor a node around it is left. -/
def walk (schema : Schema ν) (node : ν) (parent? : Option ν) : Outcome (List (Event ν)) :=
  match _found : children schema node with
  | .error refusal => ⟨[.enter node parent?], some refusal⟩
  | .ok kids =>
      let below := joinWalks (kids.attach.map fun child => walk schema child.val (some node))
      match below.refusal? with
      | some refusal => ⟨.enter node parent? :: below.state, some refusal⟩
      | none => ⟨.enter node parent? :: below.state ++ [.leave node parent?], none⟩
termination_by SyntaxNode.size node
decreasing_by exact size_lt_of_mem_children _found child.property

end SyntaxQuery
