import Mathlib.Data.List.Forall2
import Mathlib.Data.List.Induction
import SyntaxQuery.Proofs.Query.Records
import SyntaxQuery.Proofs.Traversal.Identity
import SyntaxQuery.Query.Matching

/-!
Contract: field tests along the edges of a traversal.

A field test searches downwards from an ancestor, through any fields and list elements. In a tree
whose records have one parent each, the search can only end at the node along the edges by which the
traversal came, so that the test is one of the last of these edges (`field_holds_iff`). The
induction takes the last segment off the path and the last edge off the way to the node.

Does not own: which trees are so, and which segments lead along an edge.
-/

namespace SyntaxQuery

theorem forall₂_concat_left_iff {α β : Type} {R : α → β → Prop} {before : List α} {last : α}
    {others : List β} :
    List.Forall₂ R (before ++ [last]) others ↔
      ∃ otherBefore otherLast, others = otherBefore ++ [otherLast] ∧
        List.Forall₂ R before otherBefore ∧ R last otherLast := by
  rw [← List.forall₂_reverse_iff, List.reverse_append, List.reverse_singleton,
    List.singleton_append, List.forall₂_cons_left_iff]
  constructor
  · rintro ⟨otherLast, otherBefore, related, rest, reversed⟩
    refine ⟨otherBefore.reverse, otherLast, ?_, ?_, related⟩
    · rw [← List.reverse_reverse others, reversed, List.reverse_cons]
    · rwa [← List.forall₂_reverse_iff, List.reverse_reverse]
  · rintro ⟨otherBefore, otherLast, rfl, rest, related⟩
    exact ⟨otherLast, otherBefore.reverse, related, List.forall₂_reverse_iff.mpr rest,
      by rw [List.reverse_append, List.reverse_singleton, List.singleton_append]⟩

/-- The end of a list that another is related to, one element more on both sides. -/
theorem exists_suffix_concat_iff {α β : Type} {R : α → β → Prop} {before : List α} {last : α}
    {others : List β} {other : β} :
    (∃ suffix, suffix <:+ others ++ [other] ∧ List.Forall₂ R (before ++ [last]) suffix) ↔
      (∃ suffix, suffix <:+ others ∧ List.Forall₂ R before suffix) ∧ R last other := by
  constructor
  · rintro ⟨suffix, isSuffix, related⟩
    obtain ⟨suffixBefore, suffixLast, rfl, relatedBefore, relatedLast⟩ :=
      forall₂_concat_left_iff.mp related
    have oneEach : [suffixLast].length = [other].length := rfl
    obtain ⟨isSuffixBefore, sameLast⟩ :=
      (List.suffix_append_inj_of_length_eq oneEach).mp isSuffix
    cases sameLast
    exact ⟨⟨suffixBefore, isSuffixBefore, relatedBefore⟩, relatedLast⟩
  · rintro ⟨⟨suffix, isSuffix, related⟩, relatedLast⟩
    exact ⟨suffix ++ [other], (List.suffix_append_inj_of_length_eq rfl).mpr ⟨isSuffix, rfl⟩,
      forall₂_concat_left_iff.mpr ⟨_, _, rfl, related, relatedLast⟩⟩

theorem forall₂_concat_right_iff {α β : Type} {R : α → β → Prop} {others : List α} {before : List β}
    {last : β} :
    List.Forall₂ R others (before ++ [last]) ↔
      ∃ otherBefore otherLast, others = otherBefore ++ [otherLast] ∧
        List.Forall₂ R otherBefore before ∧ R otherLast last := by
  have flipped {left : List α} {right : List β} :
      List.Forall₂ R left right ↔ List.Forall₂ (flip R) right left :=
    ⟨fun related => related.flip, fun related => related.flip⟩
  rw [flipped, forall₂_concat_left_iff]
  simp only [flipped, flip]

variable {ν : Type}

/-! ## The way to a visited node -/

/-- The edges from a root to a node with the given ancestors, each from a parent to its child, the
edge out of the root first. -/
def Visit.edgesTo : ν → List ν → List (ν × ν)
  | _, [] => []
  | node, parent :: above => edgesTo parent above ++ [(parent, node)]

/-- The edges by which a traversal came to the visited node; there are as many as ancestors. -/
def Visit.edges (visit : Visit ν) : List (ν × ν) :=
  edgesTo visit.node visit.ancestry

variable [SyntaxNode ν]

/-- The traversal goes along an edge because of a child field of the parent that holds the child,
itself or in a list. -/
def GoesThrough (schema : Schema ν) (name : String) (edge : ν × ν) : Prop :=
  ∃ fields, schema edge.1 = .ok fields ∧ name ∈ fields ∧
    edge.2 ∈ (SyntaxNode.field edge.1 name).nodes

/-- A segment leads along an edge. -/
def LeadsAlong (segment : String) (edge : ν × ν) : Prop :=
  edge.2 ∈ (SyntaxNode.field edge.1 segment).records

variable {schema : Schema ν} {root : ν}

theorem GoesThrough.leadsAlong {name : String} {edge : ν × ν}
    (through : GoesThrough schema name edge) : LeadsAlong name edge := by
  obtain ⟨_, _, _, held⟩ := through
  exact Value.nodes_subset_records _ held

theorem exists_goesThrough {node parent : ν} {above : List ν}
    (member : ⟨node, parent :: above⟩ ∈ (visits schema (.root root)).state) :
    ∃ name, GoesThrough schema name (parent, node) := by
  cases leads_of_mem_visits member with
  | tail _ steps =>
      obtain ⟨kids, found, child, isChild, isBelow⟩ := steps
      cases isBelow
      obtain ⟨fields, accepted, rfl⟩ := children_eq_ok_iff.mp found
      obtain ⟨name, isField, held⟩ := List.mem_flatMap.mp isChild
      exact ⟨name, fields, accepted, isField, held⟩

theorem exists_names {visit : Visit ν} (member : visit ∈ (visits schema (.root root)).state) :
    ∃ names, List.Forall₂ (GoesThrough schema) names visit.edges := by
  obtain ⟨node, above⟩ := visit
  show ∃ names, List.Forall₂ (GoesThrough schema) names (Visit.edgesTo node above)
  induction above generalizing node with
  | nil => exact ⟨[], .nil⟩
  | cons parent rest inductionHypothesis =>
      obtain ⟨names, through⟩ := inductionHypothesis parent (mem_visits_parent member)
      obtain ⟨name, last⟩ := exists_goesThrough member
      exact ⟨names ++ [name], forall₂_concat_left_iff.mpr ⟨_, _, rfl, through, last⟩⟩

/-! ## Trees of records -/

/-- The records of one tree: handles to them are the same exactly when they are equal, their fields
lead to records of the tree, and no record is in fields of two others. -/
structure IsRecordTree (Holds : ν → Prop) : Prop where
  same_iff : ∀ {left right : ν}, Holds left → Holds right →
    (SyntaxNode.same left right = true ↔ left = right)
  holds_of_mem : ∀ {parent child : ν} {name : String}, Holds parent →
    child ∈ (SyntaxNode.field parent name).records → Holds child
  parent_eq : ∀ {parent other child : ν} {name otherName : String}, Holds parent → Holds other →
    child ∈ (SyntaxNode.field parent name).records →
    child ∈ (SyntaxNode.field other otherName).records → parent = other

namespace IsRecordTree

variable {Holds : ν → Prop} (isTree : IsRecordTree Holds)

include isTree

theorem holds_of_reaches {segments : List String} {top record : ν} (holds : Holds top)
    (reaches : Reaches segments top record) : Holds record := by
  induction segments generalizing top with
  | nil => exact reaches ▸ holds
  | cons segment rest inductionHypothesis =>
      obtain ⟨next, held, onward⟩ := reaches
      exact inductionHypothesis (isTree.holds_of_mem holds held) onward

theorem holds_of_mem_visits (holds : Holds root) {visit : Visit ν}
    (member : visit ∈ (visits schema (.root root)).state) : Holds visit.node := by
  obtain ⟨node, above⟩ := visit
  induction above generalizing node with
  | nil =>
      cases leads_of_mem_visits member with
      | refl => exact holds
      | tail _ steps =>
          obtain ⟨_, _, _, _, isBelow⟩ := steps
          cases isBelow
  | cons parent rest inductionHypothesis =>
      obtain ⟨name, through⟩ := exists_goesThrough member
      exact isTree.holds_of_mem (inductionHypothesis parent (mem_visits_parent member))
        through.leadsAlong

theorem holds_of_mem_ancestry (holds : Holds root) {node top : ν} {above : List ν}
    (member : ⟨node, above⟩ ∈ (visits schema (.root root)).state) (isAbove : top ∈ node :: above) :
    Holds top := by
  rw [← Visit.map_node_lineageOf] at isAbove
  obtain ⟨ancestor, inLineage, rfl⟩ := List.mem_map.mp isAbove
  exact isTree.holds_of_mem_visits holds (mem_visits_of_mem_lineage member inLineage)

/-- A search that ends at a visited node passes the node's parent, since no other record leads to
the node. -/
theorem reaches_concat_iff (holds : Holds root) {node parent top : ν} {above : List ν}
    (member : ⟨node, parent :: above⟩ ∈ (visits schema (.root root)).state) (topHolds : Holds top)
    {before : List String} {segment : String} :
    Reaches (before ++ [segment]) top node ↔
      Reaches before top parent ∧ LeadsAlong segment (parent, node) := by
  rw [reaches_concat]
  constructor
  · rintro ⟨middle, reaches, held⟩
    obtain ⟨name, through⟩ := exists_goesThrough member
    have isParent : middle = parent :=
      isTree.parent_eq (isTree.holds_of_reaches topHolds reaches)
        (isTree.holds_of_mem_visits holds (mem_visits_parent member)) held through.leadsAlong
    rw [isParent] at reaches held
    exact ⟨reaches, held⟩
  · exact fun reaches => ⟨parent, reaches⟩

/-- A search with as many segments as there are edges from an ancestor to a visited node ends at the
node when each segment leads along its edge. The edges are given by labels, for which it is known
what segments lead along them. -/
theorem reaches_iff (holds : Holds root) {α : Type} {accepts : String → α → Prop} {node : ν}
    {above : List ν} (member : ⟨node, above⟩ ∈ (visits schema (.root root)).state) {labels : List α}
    (labelled : List.Forall₂ (fun label edge => ∀ segment, LeadsAlong segment edge ↔
      accepts segment label) labels (Visit.edgesTo node above))
    (segments : List String) :
    (∃ top, (node :: above)[segments.length]? = some top ∧ Reaches segments top node) ↔
      ∃ last, last <:+ labels ∧ List.Forall₂ accepts segments last := by
  -- The last segment goes with the last edge, so both lists are taken apart at their ends.
  induction segments using List.reverseRecOn generalizing node above labels with
  | nil =>
      have atNode : ∃ top, (node :: above)[0]? = some top ∧ Reaches [] top node :=
        ⟨node, rfl, rfl⟩
      exact iff_of_true atNode ⟨[], List.nil_suffix, .nil⟩
  | append_singleton before segment inductionHypothesis =>
      rw [List.length_append, List.length_singleton, List.getElem?_cons_succ]
      cases above with
      | nil =>
          cases labelled
          refine iff_of_false ?_ ?_
          · rintro ⟨top, atDepth, _⟩
            cases atDepth
          · rintro ⟨last, isSuffix, related⟩
            rw [List.suffix_nil.mp isSuffix] at related
            obtain ⟨_, _, isNil, _⟩ := forall₂_concat_left_iff.mp related
            simp at isNil
      | cons parent rest =>
          obtain ⟨labelsBefore, label, rfl, labelledBefore, leadsAlong_iff⟩ :=
            forall₂_concat_right_iff.mp labelled
          have parentMember := mem_visits_parent member
          have passesParent {top : ν} (atDepth : (parent :: rest)[before.length]? = some top) :
              Reaches (before ++ [segment]) top node ↔
                Reaches before top parent ∧ LeadsAlong segment (parent, node) :=
            isTree.reaches_concat_iff holds member
              (isTree.holds_of_mem_ancestry holds parentMember (List.mem_of_getElem? atDepth))
          calc (∃ top, (parent :: rest)[before.length]? = some top ∧
                  Reaches (before ++ [segment]) top node)
              ↔ (∃ top, (parent :: rest)[before.length]? = some top ∧ Reaches before top parent) ∧
                  LeadsAlong segment (parent, node) := by
                simp only [← exists_and_right, and_assoc]
                exact exists_congr fun top => and_congr_right passesParent
            _ ↔ (∃ last, last <:+ labelsBefore ∧ List.Forall₂ accepts before last) ∧
                  accepts segment label :=
                and_congr (inductionHypothesis parentMember labelledBefore) (leadsAlong_iff segment)
            _ ↔ ∃ last, last <:+ labelsBefore ++ [label] ∧
                  List.Forall₂ accepts (before ++ [segment]) last :=
                exists_suffix_concat_iff.symm

/-- A field test holds at a visited node exactly when its segments lead along the last edges to the
node, one segment along each. -/
theorem field_holds_iff (holds : Holds root) {α : Type} {accepts : String → α → Prop}
    {visit : Visit ν} (member : visit ∈ (visits schema (.root root)).state) {labels : List α}
    (labelled : List.Forall₂ (fun label edge => ∀ segment, LeadsAlong segment edge ↔
      accepts segment label) labels visit.edges)
    (path : String) :
    (NodeTest.field path).holds visit.node visit.ancestry = true ↔
      ∃ last, last <:+ labels ∧ List.Forall₂ accepts (Text.segments path) last := by
  obtain ⟨node, above⟩ := visit
  rw [← isTree.reaches_iff holds member labelled]
  have nonempty : Text.segments path ≠ [] := by
    unfold Text.segments
    rw [Ne, List.map_eq_nil_iff]
    exact Text.splitAt_ne_nil '.' path.toList
  obtain ⟨first, rest, isCons⟩ := List.exists_cons_of_ne_nil nonempty
  -- The test counts from the parent on, so it goes up one step less than there are segments.
  unfold NodeTest.holds
  simp only [isCons, List.length_cons, Nat.add_sub_cancel, List.getElem?_cons_succ]
  cases atDepth : above[rest.length]? with
  | none => simp
  | some top =>
      simp only [leadsTo_iff, Option.some.injEq, exists_eq_left']
      have topHolds := isTree.holds_of_mem_ancestry holds member
        (List.mem_cons_of_mem _ (List.mem_of_getElem? atDepth))
      have nodeHolds := isTree.holds_of_mem_visits holds member
      constructor
      · rintro ⟨record, reaches, same⟩
        have isNode :=
          (isTree.same_iff (isTree.holds_of_reaches topHolds reaches) nodeHolds).mp same
        rwa [isNode] at reaches
      · exact fun reaches => ⟨node, reaches, (isTree.same_iff nodeHolds nodeHolds).mpr rfl⟩

end IsRecordTree

end SyntaxQuery
