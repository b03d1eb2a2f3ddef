import Mathlib.Data.List.Nodup
import SyntaxQuery.Proofs.Query.FieldTests
import SyntaxQuery.Proofs.Query.Placement

/-!
Contract: nodes in the lists of the records of one tree.

In a tree of records whose lists hold each node once, any node is told apart in the lists of any
record, whatever fields hold children and whether a traversal comes there or not
(`IsListedTree.toldApart`). Documents and source trees are so. In a document the position of a node
even determines the field that holds it, alone or in a list, and the place in the list.

Does not own: searches through these lists.
-/

namespace SyntaxQuery

variable {ν : Type} [SyntaxNode ν]

/-- A list that a child field of the parent holds has the node as an element. -/
def IsListed (schema : Schema ν) (parent node : ν) : Prop :=
  ∃ items, HoldsList schema parent items ∧ .node node ∈ items

variable {schema : Schema ν} {parent node other : ν}

/-! ## Trees of records with lists -/

/-- The records of one tree, in which no list that a field holds has a node at two places. -/
structure IsListedTree (Holds : ν → Prop) : Prop extends IsRecordTree Holds where
  place_eq : ∀ {parent node : ν} {name : String} {items : List (Value ν)} {i j : Nat},
    SyntaxNode.field parent name = .list items →
    items[i]? = some (.node node) → items[j]? = some (.node node) → i = j

namespace IsListedTree

variable {Holds : ν → Prop} (isTree : IsListedTree Holds)

include isTree

theorem holds_of_mem_list (parentHolds : Holds parent) {items : List (Value ν)}
    (holds : HoldsList schema parent items) (isItem : .node other ∈ items) : Holds other := by
  obtain ⟨_, _, name, _, held⟩ := holds
  have isRecord : other ∈ (SyntaxNode.field parent name).records := by
    rw [held]
    exact List.mem_filterMap.mpr ⟨.node other, isItem, rfl⟩
  exact isTree.holds_of_mem parentHolds isRecord

theorem toldApart (parentHolds : Holds parent) (nodeHolds : Holds node) :
    ToldApart schema parent node where
  same_iff holds isItem :=
    isTree.same_iff (isTree.holds_of_mem_list parentHolds holds isItem) nodeHolds
  place_eq holds atPlace atOther := by
    obtain ⟨_, _, _, _, held⟩ := holds
    exact isTree.place_eq held atPlace atOther

end IsListedTree

theorem DocumentNode.isListedTree (document : Json) : IsListedTree (StandsIn document) where
  toIsRecordTree := isRecordTree document
  place_eq held atPlace atOther := by
    have joined := (eq_of_getElem?_field held atPlace).1.symm.trans
      (eq_of_getElem?_field held atOther).1
    have ends := congrArg List.getLast? joined
    simpa using ends

theorem SourceNode.isListedTree (source : String) (tree : SyntaxTree) :
    IsListedTree (StandsIn source tree) where
  toIsRecordTree := isRecordTree source tree
  place_eq held atPlace atOther := by
    obtain ⟨nodes, once, rfl⟩ := exists_nodes_of_field_eq_list held
    have itemsOnce : (nodes.map Value.node).Nodup :=
      List.Nodup.map (fun _ _ same => Value.node.inj same) once
    have inBounds := (List.getElem?_eq_some_iff.mp atPlace).1
    exact (List.getElem?_inj inBounds itemsOnce).mp (atPlace.trans atOther.symm)

/-! ## Lists of a document -/

namespace DocumentNode

variable {schema : Schema DocumentNode} {parent node : DocumentNode}

/-- A node of a document is in one list of child fields of a record, at one place. -/
theorem list_and_place_eq {items others : List (Value DocumentNode)} {place otherPlace : Nat}
    (holds : HoldsList schema parent items) (otherHolds : HoldsList schema parent others)
    (atPlace : items[place]? = some (.node node))
    (atOther : others[otherPlace]? = some (.node node)) : items = others ∧ place = otherPlace := by
  obtain ⟨_, _, name, _, held⟩ := holds
  obtain ⟨_, _, otherName, _, otherHeld⟩ := otherHolds
  have joined := (eq_of_getElem?_field held atPlace).1.symm.trans
    (eq_of_getElem?_field otherHeld atOther).1
  cases List.append_cancel_left joined
  exact ⟨Value.list.inj (held.symm.trans otherHeld), rfl⟩

/-- A node that a field holds alone is in no list of the record. -/
theorem not_isListed_of_field_eq_node {name : String} (held : parent.field name = .node node) :
    ¬ IsListed schema parent node := by
  rintro ⟨items, ⟨_, _, listName, _, listHeld⟩, isItem⟩
  obtain ⟨place, atPlace⟩ := List.mem_iff_getElem?.mp isItem
  have joined := (position_eq_of_field_eq_node held).symm.trans
    (eq_of_getElem?_field listHeld atPlace).1
  cases List.append_cancel_left joined

end DocumentNode

end SyntaxQuery
