import SyntaxQuery.Proofs.Query.Records
import SyntaxQuery.Source.Node

/-!
Contract: the nodes of a source tree by their positions.

A child stands one index below its parent, and the fields of a node lead to its children only. Which
children these are is said by the grammar fields, and by the common field where the grammar has none
of its name (`mem_records_field_iff`).

Does not own: traversals.
-/

namespace SyntaxQuery

/-- The tree that some indices lead to. -/
def SyntaxTree.at? : SyntaxTree → List Nat → Option SyntaxTree
  | tree, [] => some tree
  | tree, index :: rest => (tree.children[index]?).bind (SyntaxTree.at? · rest)

theorem SyntaxTree.at?_append (tree : SyntaxTree) (before after : List Nat) :
    tree.at? (before ++ after) = (tree.at? before).bind (SyntaxTree.at? · after) := by
  induction before generalizing tree with
  | nil => rfl
  | cons index rest inductionHypothesis =>
      rw [List.cons_append, SyntaxTree.at?, SyntaxTree.at?, Option.bind_assoc]
      exact Option.bind_congr fun child _ => inductionHypothesis child

namespace SourceNode

/-- Where a handle among handles to siblings stands. -/
theorem exists_index_of_mem_handles {node child : SourceNode} {start : Nat}
    {trees : List SyntaxTree} (member : child ∈ node.handles start trees) :
    ∃ index, child.position = node.position ++ [start + index] ∧
      trees[index]? = some child.tree ∧ child.source = node.source := by
  induction trees generalizing start with
  | nil => cases member
  | cons tree rest inductionHypothesis =>
      rw [handles] at member
      rcases List.mem_cons.mp member with rfl | later
      · exact ⟨0, rfl, rfl, rfl⟩
      · obtain ⟨index, position, found, source⟩ := inductionHypothesis later
        refine ⟨index + 1, ?_, found, source⟩
        rw [position, Nat.add_right_comm, Nat.add_assoc]

theorem exists_index_of_mem_all {node child : SourceNode} (member : child ∈ node.all) :
    ∃ index, child.position = node.position ++ [index] ∧
      node.tree.children[index]? = some child.tree ∧ child.source = node.source := by
  obtain ⟨index, position, found⟩ := exists_index_of_mem_handles member
  rw [Nat.zero_add] at position
  exact ⟨index, position, found⟩

theorem mem_handles_of_getElem? (node : SourceNode) (start : Nat) {trees : List SyntaxTree}
    {index : Nat} {below : SyntaxTree} (found : trees[index]? = some below) :
    ⟨node.position ++ [start + index], below, node.source⟩ ∈ node.handles start trees := by
  induction trees generalizing start index with
  | nil => cases found
  | cons tree rest inductionHypothesis =>
      rw [handles]
      cases index with
      | zero =>
          cases found
          exact List.mem_cons_self
      | succ index =>
          have later := inductionHypothesis (start + 1) found
          rw [Nat.add_right_comm, Nat.add_assoc] at later
          exact List.mem_cons_of_mem _ later

theorem pairwise_handles (node : SourceNode) (start : Nat) (trees : List SyntaxTree) :
    (node.handles start trees).Pairwise fun left right => ∃ index later, index < later ∧
      left.position = node.position ++ [index] ∧ right.position = node.position ++ [later] := by
  induction trees generalizing start with
  | nil => exact .nil
  | cons tree rest inductionHypothesis =>
      rw [handles]
      refine .cons ?_ (inductionHypothesis (start + 1))
      intro right member
      obtain ⟨index, position, _⟩ := exists_index_of_mem_handles member
      exact ⟨start, start + 1 + index, by omega, rfl, position⟩

/-- The children are told apart by their indices. -/
theorem nodup_all (node : SourceNode) : node.all.Nodup := by
  refine (pairwise_handles node 0 node.tree.children).imp ?_
  rintro left right ⟨index, later, before, leftPosition, rightPosition⟩ rfl
  cases List.append_cancel_left (leftPosition.symm.trans rightPosition)
  exact Nat.lt_irrefl index before

/-- A list that a field holds consists of nodes, each of them once. -/
theorem exists_nodes_of_field_eq_list {node : SourceNode} {name : String}
    {items : List (Value SourceNode)} (held : node.field name = .list items) :
    ∃ nodes : List SourceNode, nodes.Nodup ∧ items = nodes.map Value.node := by
  unfold field at held
  split at held
  · unfold commonField at held
    split at held
    · cases held
      exact ⟨_, (nodup_all node).filter _, rfl⟩
    · repeat' split at held
      all_goals cases held
  · cases held
  · cases held
    exact ⟨_, (nodup_all node).filter _, rfl⟩

theorem mem_inField_iff {node child : SourceNode} {name : String} :
    child ∈ node.inField name ↔ child ∈ node.all ∧ child.tree.info.field? = some name := by
  rw [inField, List.mem_filter, beq_iff_eq]

theorem inField_eq_nil_iff {node : SourceNode} {name : String} :
    node.inField name = [] ↔ ∀ child ∈ node.all, child.tree.info.field? ≠ some name := by
  simp only [inField, List.filter_eq_nil_iff, beq_iff_eq]

theorem records_list_map (nodes : List SourceNode) :
    (Value.list (nodes.map Value.node)).records = nodes := by
  rw [Value.records, List.filterMap_map]
  exact List.filterMap_some

/-- The records that a field leads to: the children in the grammar field of the name; where there
are none, the field that lists the named children leads to these. -/
theorem mem_records_field_iff {node child : SourceNode} {name : String} :
    child ∈ (node.field name).records ↔
      child ∈ node.inField name ∨
        node.inField name = [] ∧ name = childrenField ∧ child ∈ node.all ∧
          child.tree.info.named = true := by
  unfold field
  split
  · next found =>
      rw [found]
      simp only [List.not_mem_nil, false_or, true_and]
      unfold commonField
      split
      · next isChildren => rw [records_list_map, List.mem_filter, and_iff_right isChildren]
      · next notChildren =>
          repeat' split
          all_goals simp [Value.records, Value.record?, notChildren]
  · next only found => simp [found, Value.records, Value.record?]
  · next nonempty _ =>
      rw [records_list_map]
      exact (or_iff_left fun common => nonempty common.1).symm

end SourceNode

end SyntaxQuery
