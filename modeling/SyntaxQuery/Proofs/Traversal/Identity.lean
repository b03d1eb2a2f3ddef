import SyntaxQuery.Proofs.Traversal.Visits

/-!
Contract: trees in which the entered nodes are told apart.

`Unambiguous` collects what a query relies on without checking it: a node has one list of ancestors,
the comparison of handles decides equality, and a list holds a node at one place. From it follow the
parent and the ancestors of a node as parts of its visit.

Does not own: which trees have the property.
-/

namespace SyntaxQuery

variable {ν : Type}

/-- The visit of a node comes first in its lineage. -/
theorem Visit.mem_lineageOf_self (node : ν) (above : List ν) :
    ⟨node, above⟩ ∈ Visit.lineageOf node above := by
  cases above with
  | nil => exact List.mem_cons_self
  | cons parent rest => exact List.mem_cons_self

/-- The nodes of a lineage are the node that it begins with and that node's ancestors. -/
theorem Visit.map_node_lineageOf (node : ν) (above : List ν) :
    (Visit.lineageOf node above).map Visit.node = node :: above := by
  induction above generalizing node with
  | nil => rfl
  | cons parent rest inductionHypothesis =>
      rw [Visit.lineageOf, List.map_cons, inductionHypothesis]

/-- The lineage of a visit in a lineage is what remains from that visit on. -/
theorem Visit.lineage_suffix_of_mem_lineageOf {node : ν} {above : List ν} {visit : Visit ν}
    (member : visit ∈ lineageOf node above) : visit.lineage <:+ lineageOf node above := by
  induction above generalizing node with
  | nil =>
      obtain rfl := List.mem_singleton.mp member
      exact List.suffix_rfl
  | cons parent rest inductionHypothesis =>
      rcases List.mem_cons.mp member with rfl | higher
      · exact List.suffix_rfl
      · exact (inductionHypothesis higher).trans (List.suffix_cons _ _)

/-- The ancestors in a visit of a lineage are the last ones of the node that it begins with. -/
theorem Visit.ancestry_suffix_of_mem_lineageOf {node : ν} {above : List ν} {visit : Visit ν}
    (member : visit ∈ lineageOf node above) : visit.ancestry <:+ above := by
  induction above generalizing node with
  | nil =>
      obtain rfl := List.mem_singleton.mp member
      exact List.suffix_rfl
  | cons parent rest inductionHypothesis =>
      rcases List.mem_cons.mp member with rfl | higher
      · exact List.suffix_rfl
      · exact (inductionHypothesis higher).trans (List.suffix_cons _ _)

variable [SyntaxNode ν]

/-- The nodes that a traversal from the root enters are told apart: each has one list of ancestors,
handles to them are the same exactly when they are equal, and no field of them holds a node at two
places of a list. -/
structure Unambiguous (schema : Schema ν) (root : ν) : Prop where
  ancestry_eq : ∀ {node : ν} {above other : List ν},
    ⟨node, above⟩ ∈ (visits schema (.root root)).state →
    ⟨node, other⟩ ∈ (visits schema (.root root)).state → above = other
  same_iff : ∀ {left right : Visit ν}, left ∈ (visits schema (.root root)).state →
    right ∈ (visits schema (.root root)).state →
    (SyntaxNode.same left.node right.node = true ↔ left.node = right.node)
  place_eq : ∀ {parent : Visit ν} {name : String} {items : List (Value ν)} {node : ν} {i j : Nat},
    parent ∈ (visits schema (.root root)).state →
    SyntaxNode.field parent.node name = .list items →
    items[i]? = some (.node node) → items[j]? = some (.node node) → i = j

variable {schema : Schema ν} {root : ν}

/-- A visited node's parent is visited with the ancestors that remain. -/
theorem mem_visits_parent {node parent : ν} {above : List ν}
    (member : ⟨node, parent :: above⟩ ∈ (visits schema (.root root)).state) :
    ⟨parent, above⟩ ∈ (visits schema (.root root)).state :=
  mem_visits_of_mem_lineage member
    (List.mem_cons_of_mem _ (Visit.mem_lineageOf_self parent above))

/-- The ancestors of a visit are entered. -/
theorem enters_of_mem_ancestry {visit : Visit ν} {ancestor : ν}
    (member : visit ∈ (visits schema (.root root)).state) (isAbove : ancestor ∈ visit.ancestry) :
    Enters schema root ancestor := by
  have inLineage : ancestor ∈ visit.lineage.map Visit.node := by
    rw [Visit.lineage, Visit.map_node_lineageOf]
    exact List.mem_cons_of_mem _ isAbove
  obtain ⟨higher, isHigher, rfl⟩ := List.mem_map.mp inLineage
  exact enters_iff.mpr ⟨higher.ancestry, mem_visits_of_mem_lineage member isHigher⟩

/-- The ancestors of a visit are reached from its node through parents. -/
theorem transGen_isParent_of_mem {node ancestor : ν} {above : List ν}
    (member : ⟨node, above⟩ ∈ (visits schema (.root root)).state) (isAbove : ancestor ∈ above) :
    Relation.TransGen (IsParent schema root) ancestor node := by
  induction above generalizing node with
  | nil => cases isAbove
  | cons parent rest inductionHypothesis =>
      have isParent : IsParent schema root parent node := isParent_iff.mpr ⟨rest, member⟩
      rcases List.mem_cons.mp isAbove with same | higher
      · rw [same]
        exact .single isParent
      · exact .tail (inductionHypothesis (mem_visits_parent member) higher) isParent

namespace Unambiguous

/-- The parent of a visited node is the first of its ancestors. -/
theorem ancestry_of_isParent (unambiguous : Unambiguous schema root) {node parent : ν}
    {above : List ν} (member : ⟨node, above⟩ ∈ (visits schema (.root root)).state)
    (isParent : IsParent schema root parent node) : ∃ rest, above = parent :: rest := by
  obtain ⟨rest, entered⟩ := isParent_iff.mp isParent
  exact ⟨rest, unambiguous.ancestry_eq member entered⟩

/-- The nodes reached from a visited node through parents are its ancestors. -/
theorem mem_of_transGen_isParent (unambiguous : Unambiguous schema root) {node ancestor : ν}
    {above : List ν} (member : ⟨node, above⟩ ∈ (visits schema (.root root)).state)
    (leads : Relation.TransGen (IsParent schema root) ancestor node) : ancestor ∈ above := by
  induction leads generalizing above with
  | single isParent =>
      obtain ⟨rest, rfl⟩ := unambiguous.ancestry_of_isParent member isParent
      exact List.mem_cons_self
  | tail _ isParent inductionHypothesis =>
      obtain ⟨rest, rfl⟩ := unambiguous.ancestry_of_isParent member isParent
      exact List.mem_cons_of_mem _ (inductionHypothesis (mem_visits_parent member))

end Unambiguous

end SyntaxQuery
