import SyntaxQuery.Tree.Value

/-!
Contract: syntax trees as the query engine sees them.

Owns: the operations on node handles, schemas that name the fields of a node's children, and the
children of a node.
Does not own: any particular kind of tree.
-/

namespace SyntaxQuery

/-- The operations on a handle to a syntax node. Trees are finite: a node is larger than each node
that one of its fields holds. -/
class SyntaxNode (ν : Type) where
  /-- The type tag. -/
  kind : ν → String
  /-- What the field of a name holds. -/
  field : ν → String → Value ν
  /-- Both handles denote the same place of the same tree. -/
  same : ν → ν → Bool
  /-- Where the node starts and ends in its source, when that is known. -/
  span? : ν → Option (Nat × Nat)
  /-- A measure of the tree below the node. -/
  size : ν → Nat
  size_lt_of_mem_field : ∀ (node : ν) (name : String) (child : ν),
    child ∈ (field node name).nodes → size child < size node

/-- The refusal of a schema to name the child fields of an unknown type of node. -/
structure UnknownNodeType where
  kind : String
deriving DecidableEq, Repr

def UnknownNodeType.message (refusal : UnknownNodeType) : String :=
  "unknown node type '" ++ refusal.kind ++ "' (no child-field schema entry)"

/-- The fields that may hold children of a node, in the order of traversal. -/
abbrev Schema (ν : Type) := ν → Except UnknownNodeType (List String)

/-- What a schema does with a type of node that it has no entry for. -/
inductive Fallback where
  /-- Every field that holds a node or a list counts. -/
  | iteration
  /-- The node is refused. -/
  | strict
deriving DecidableEq, Repr

variable {ν : Type} [SyntaxNode ν]

/-- The children of a node, by schema field and then by place in a list. -/
def children (schema : Schema ν) (node : ν) : Except UnknownNodeType (List ν) :=
  match schema node with
  | .error refusal => .error refusal
  | .ok fields => .ok (fields.flatMap fun name => (SyntaxNode.field node name).nodes)

theorem children_eq_error_iff {schema : Schema ν} {node : ν} {refusal : UnknownNodeType} :
    children schema node = .error refusal ↔ schema node = .error refusal := by
  unfold children
  cases schema node <;> simp

theorem children_eq_ok_iff {schema : Schema ν} {node : ν} {kids : List ν} :
    children schema node = .ok kids ↔ ∃ fields, schema node = .ok fields ∧
      (fields.flatMap fun name => (SyntaxNode.field node name).nodes) = kids := by
  unfold children
  cases schema node <;> simp

/-- A child is smaller than its parent. -/
theorem size_lt_of_mem_children {schema : Schema ν} {node child : ν} {kids : List ν}
    (found : children schema node = .ok kids) (member : child ∈ kids) :
    SyntaxNode.size child < SyntaxNode.size node := by
  obtain ⟨fields, _, rfl⟩ := children_eq_ok_iff.mp found
  obtain ⟨name, _, held⟩ := List.mem_flatMap.1 member
  exact SyntaxNode.size_lt_of_mem_field node name child held

end SyntaxQuery
