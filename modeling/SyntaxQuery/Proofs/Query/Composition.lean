import SyntaxQuery.Document.Schema
import SyntaxQuery.Proofs.Document.Positions
import SyntaxQuery.Proofs.Query.Placement
import SyntaxQuery.Proofs.Query.Reports
import SyntaxQuery.Proofs.Selector.Marks

/-!
Contract: queries compose as sets of nodes.

`Composes` states for every selector without marks, by its outermost shape, which nodes a query
reports, given what queries for its parts report. The test of a part at another node than the
visited one, an ancestor or an element of a parent's list, is what the query finds at the visit of
that other node: it was visited, under the ancestors with which it is tested, and under no others.

Does not own: queries with marks.
-/

namespace SyntaxQuery

/-! ## Two lists taken apart and put together -/

/-- The third list consists of the elements of the first two, each in its order. -/
inductive Interleaves {α : Type} : List α → List α → List α → Prop where
  | nil : Interleaves [] [] []
  | left {item : α} {first second joined : List α} :
      Interleaves first second joined → Interleaves (item :: first) second (item :: joined)
  | right {item : α} {first second joined : List α} :
      Interleaves first second joined → Interleaves first (item :: second) (item :: joined)

/-- A test takes a list apart into what passes and what does not. -/
theorem interleaves_filter {α β : Type} (passes : α → Bool) (value : α → β) (items : List α) :
    Interleaves ((items.filter passes).map value) ((items.filter (!passes ·)).map value)
      (items.map value) := by
  induction items with
  | nil => exact .nil
  | cons item rest inductionHypothesis =>
      by_cases passed : passes item
      · simp only [List.filter_cons, passed, Bool.not_true, Bool.false_eq_true, if_true, if_false,
          List.map_cons]
        exact .left inductionHypothesis
      · simp only [List.filter_cons, passed, Bool.not_false, Bool.false_eq_true, if_true, if_false,
          List.map_cons]
        exact .right inductionHypothesis

variable {ν : Type}

theorem someAncestorSatisfies_iff {test : ν → List ν → Bool} {parent : ν} {above : List ν} :
    someAncestorSatisfies test (parent :: above) = true ↔
      ∃ visit ∈ Visit.lineageOf parent above, test visit.node visit.ancestry = true := by
  induction above generalizing parent with
  | nil => simp [someAncestorSatisfies, Visit.lineageOf]
  | cons next rest inductionHypothesis =>
      rw [someAncestorSatisfies, Bool.or_eq_true, inductionHypothesis, Visit.lineageOf]
      simp only [List.mem_cons, exists_eq_or_imp]

variable [SyntaxNode ν]

/-! ## The laws of composition -/

/-- Some list of the node's parent has another node in the given place such that the node and the
other node are among the given nodes, one on either side. -/
def RelatedInLists (IsBeside : List (Value ν) → ν → ν → Prop) (schema : Schema ν) (root : ν)
    (left right : List ν) (node : ν) : Prop :=
  ∃ parent, IsParent schema root parent node ∧ ∃ items, HoldsList schema parent items ∧
    ∃ other, IsBeside items node other ∧
      (node ∈ right ∧ other ∈ left ∨ node ∈ left ∧ other ∈ right)

/-- What queries for selectors without marks report, given the reports for their parts. -/
structure Composes (schema : Schema ν) (root : ν) (reported : Selector → List ν) : Prop where
  wildcard : reported (.single .wildcard false) = enteredNodes schema root
  inOrder : ∀ selector : Selector, selector.Unmarked →
    ∃ keeps : ν → Bool, reported selector = (enteredNodes schema root).filter keeps
  allOf : ∀ members : List Selector, (∀ member ∈ members, member.Unmarked) → ∀ node,
    node ∈ reported (.group .allOf members false) ↔
      Enters schema root node ∧ ∀ member ∈ members, node ∈ reported member
  anyOf : ∀ members : List Selector, (∀ member ∈ members, member.Unmarked) → ∀ node,
    node ∈ reported (.group .anyOf members false) ↔ ∃ member ∈ members, node ∈ reported member
  noneOf : ∀ members : List Selector, (∀ member ∈ members, member.Unmarked) → ∀ node,
    node ∈ reported (.group .noneOf members false) ↔
      Enters schema root node ∧ ¬ ∃ member ∈ members, node ∈ reported member
  child : ∀ left right : Selector, left.Unmarked → right.Unmarked → ∀ node,
    node ∈ reported (.relation .child left right false) ↔
      node ∈ reported right ∧ ∃ parent, IsParent schema root parent node ∧ parent ∈ reported left
  descendant : ∀ left right : Selector, left.Unmarked → right.Unmarked → ∀ node,
    node ∈ reported (.relation .descendant left right false) ↔
      node ∈ reported right ∧ ∃ ancestor,
        Relation.TransGen (IsParent schema root) ancestor node ∧ ancestor ∈ reported left
  sibling : ∀ left right : Selector, left.Unmarked → right.Unmarked → ∀ node,
    node ∈ reported (.relation .sibling left right false) ↔
      RelatedInLists IsSibling schema root (reported left) (reported right) node
  adjacent : ∀ left right : Selector, left.Unmarked → right.Unmarked → ∀ node,
    node ∈ reported (.relation .adjacent left right false) ↔
      RelatedInLists IsNeighbour schema root (reported left) (reported right) node
  anyOf_single : ∀ selector : Selector, selector.Unmarked →
    reported (.group .anyOf [selector] false) = reported selector
  noneOf_single : ∀ selector : Selector, selector.Unmarked →
    Interleaves (reported selector) (reported (.group .noneOf [selector] false))
      (reported (.single .wildcard false))

/-! ## Reports of selectors without marks -/

theorem Selector.testAny_eq_any (schema : Schema ν) (members : List Selector) (node : ν)
    (ancestry : List ν) :
    testAny schema members node ancestry =
      members.any fun member => member.test schema node ancestry := by
  induction members with
  | nil => rfl
  | cons first rest inductionHypothesis => rw [testAny, inductionHypothesis, List.any_cons]

theorem Selector.testAll_eq_all (schema : Schema ν) (members : List Selector) (node : ν)
    (ancestry : List ν) :
    testAll schema members node ancestry =
      members.all fun member => member.test schema node ancestry := by
  induction members with
  | nil => rfl
  | cons first rest inductionHypothesis => rw [testAll, inductionHypothesis, List.all_cons]

/-- The nodes that a selector matches at their visits, in the order of entering. -/
def passedNodes (schema : Schema ν) (root : ν) (selector : Selector) : List ν :=
  ((visits schema (.root root)).state.filter (Visit.passes schema selector)).map Visit.node

variable {schema : Schema ν} {root : ν}

theorem mem_passedNodes {selector : Selector} {node : ν} :
    node ∈ passedNodes schema root selector ↔
      ∃ above, ⟨node, above⟩ ∈ (visits schema (.root root)).state ∧
        selector.test schema node above = true := by
  unfold passedNodes
  rw [List.mem_map]
  constructor
  · intro reported
    obtain ⟨⟨_, above⟩, kept, rfl⟩ := reported
    exact ⟨above, List.mem_filter.mp kept⟩
  · intro visited
    obtain ⟨above, kept⟩ := visited
    exact ⟨⟨node, above⟩, List.mem_filter.mpr kept, rfl⟩

/-- A query without marks reports the nodes that its selector matches. -/
theorem matchTree_of_unmarked (accepted : (traversalEvents schema root).refusal? = none)
    {selector : Selector} (unmarked : selector.Unmarked) :
    matchTree schema selector root = .ok (passedNodes schema root selector) := by
  rw [matchTree_of_accepted accepted]
  exact congrArg Except.ok
    (flatMap_reports_of_subjects_eq_nil (Selector.subjects_of_unmarked unmarked) _)

/-- In an unambiguous tree a node is reported exactly when its selector matches at its visit. -/
theorem Unambiguous.mem_passedNodes_iff (unambiguous : Unambiguous schema root)
    {selector : Selector} {node : ν} {above : List ν}
    (member : ⟨node, above⟩ ∈ (visits schema (.root root)).state) :
    node ∈ passedNodes schema root selector ↔ selector.test schema node above = true := by
  rw [mem_passedNodes]
  constructor
  · intro visited
    obtain ⟨other, otherMember, passed⟩ := visited
    rwa [unambiguous.ancestry_eq member otherMember]
  · exact fun passed => ⟨above, member, passed⟩

/-! ## The laws hold -/

/-- Where a search finds what stands beside a node, searching for either of two selectors finds what
the queries for them report there. -/
theorem Unambiguous.relatedInLists_iff (unambiguous : Unambiguous schema root)
    (accepted : (traversalEvents schema root).refusal? = none)
    {IsBeside : List (Value ν) → ν → ν → Prop} {search : (ν → Bool) → ν → List ν → Bool}
    (searches : Searches schema root IsBeside search)
    {left right : Selector} {node : ν} {above : List ν}
    (member : ⟨node, above⟩ ∈ (visits schema (.root root)).state) :
    (right.test schema node above && search (left.test schema · above) node above ||
        left.test schema node above && search (right.test schema · above) node above) = true ↔
      RelatedInLists IsBeside schema root (passedNodes schema root left)
        (passedNodes schema root right) node := by
  unfold RelatedInLists
  cases above with
  | nil =>
      -- The root is in no list, and a parent would be among its ancestors.
      simp only [searches.withoutParent, Bool.and_false, Bool.or_self, Bool.false_eq_true,
        false_iff]
      intro related
      obtain ⟨parent, isParent, _⟩ := related
      obtain ⟨rest, isEmpty⟩ := unambiguous.ancestry_of_isParent member isParent
      cases isEmpty
  | cons parent above =>
      have parentMember := mem_visits_parent member
      have matchOneEach_iff {items : List (Value ν)} {other : ν}
          (holds : HoldsList schema parent items) (beside : IsBeside items node other) :
          MatchOneEach schema left right (parent :: above) node other ↔
            node ∈ passedNodes schema root right ∧ other ∈ passedNodes schema root left ∨
              node ∈ passedNodes schema root left ∧ other ∈ passedNodes schema root right := by
        have otherMember :=
          mem_visits_of_holdsList accepted parentMember holds (searches.isItem beside)
        simp only [unambiguous.mem_passedNodes_iff member,
          unambiguous.mem_passedNodes_iff otherMember]
        rfl
      rw [searchesEither_iff (searches.found_iff · member)]
      constructor
      · rintro ⟨other, ⟨items, holds, beside⟩, matched⟩
        exact ⟨parent, isParent_iff.mpr ⟨above, member⟩, items, holds, other, beside,
          (matchOneEach_iff holds beside).mp matched⟩
      · rintro ⟨otherParent, isParent, items, holds, other, beside, sides⟩
        obtain ⟨rest, sameAncestry⟩ := unambiguous.ancestry_of_isParent member isParent
        cases sameAncestry
        exact ⟨other, ⟨items, holds, beside⟩, (matchOneEach_iff holds beside).mpr sides⟩

/-- A query reports an entered node exactly when what its selector demands at the visits of the node
holds. -/
theorem Unambiguous.mem_passedNodes_iff_of (unambiguous : Unambiguous schema root)
    {selector : Selector} {node : ν} {Demand : Prop}
    (demand_iff : ∀ above, ⟨node, above⟩ ∈ (visits schema (.root root)).state →
      (selector.test schema node above = true ↔ Demand)) :
    node ∈ passedNodes schema root selector ↔ Enters schema root node ∧ Demand := by
  rw [enters_iff]
  constructor
  · intro passed
    obtain ⟨above, member, _⟩ := mem_passedNodes.mp passed
    have holds := (unambiguous.mem_passedNodes_iff member).mp passed
    exact ⟨⟨above, member⟩, (demand_iff above member).mp holds⟩
  · intro demanded
    obtain ⟨⟨above, member⟩, demand⟩ := demanded
    exact (unambiguous.mem_passedNodes_iff member).mpr ((demand_iff above member).mpr demand)

theorem enters_of_mem_passedNodes {selector : Selector} {node : ν}
    (passed : node ∈ passedNodes schema root selector) : Enters schema root node := by
  obtain ⟨above, member, _⟩ := mem_passedNodes.mp passed
  exact enters_iff.mpr ⟨above, member⟩

theorem passedNodes_wildcard :
    passedNodes schema root (.single .wildcard false) = enteredNodes schema root := by
  rw [enteredNodes_eq_map_visits]
  exact congrArg (List.map Visit.node) (List.filter_eq_self.2 fun visit _ => rfl)

theorem Unambiguous.exists_passedNodes_eq_filter (unambiguous : Unambiguous schema root)
    (selector : Selector) :
    ∃ keeps : ν → Bool,
      passedNodes schema root selector = (enteredNodes schema root).filter keeps := by
  classical
  refine ⟨fun node => decide (node ∈ passedNodes schema root selector), ?_⟩
  rw [enteredNodes_eq_map_visits, List.filter_map]
  refine congrArg (List.map Visit.node) (List.filter_congr fun visit member => ?_)
  rw [Bool.eq_iff_iff, Function.comp_apply, decide_eq_true_iff]
  exact (unambiguous.mem_passedNodes_iff member).symm

theorem Unambiguous.testAny_iff (unambiguous : Unambiguous schema root) {members : List Selector}
    {node : ν} {above : List ν} (member : ⟨node, above⟩ ∈ (visits schema (.root root)).state) :
    Selector.testAny schema members node above = true ↔
      ∃ selector ∈ members, node ∈ passedNodes schema root selector := by
  rw [Selector.testAny_eq_any, List.any_eq_true]
  exact exists_congr fun selector =>
    and_congr_right fun _ => (unambiguous.mem_passedNodes_iff member).symm

theorem Unambiguous.mem_passedNodes_anyOf (unambiguous : Unambiguous schema root)
    (members : List Selector) (node : ν) :
    node ∈ passedNodes schema root (.group .anyOf members false) ↔
      ∃ selector ∈ members, node ∈ passedNodes schema root selector := by
  rw [unambiguous.mem_passedNodes_iff_of]
  · refine and_iff_right_of_imp ?_
    intro found
    obtain ⟨selector, _, passed⟩ := found
    exact enters_of_mem_passedNodes passed
  intro above member
  exact unambiguous.testAny_iff member

theorem Unambiguous.mem_passedNodes_allOf (unambiguous : Unambiguous schema root)
    (members : List Selector) (node : ν) :
    node ∈ passedNodes schema root (.group .allOf members false) ↔
      Enters schema root node ∧
        ∀ selector ∈ members, node ∈ passedNodes schema root selector := by
  refine unambiguous.mem_passedNodes_iff_of fun above member => ?_
  show Selector.testAll schema members node above = true ↔ _
  rw [Selector.testAll_eq_all, List.all_eq_true]
  exact forall_congr' fun selector =>
    imp_congr_right fun _ => (unambiguous.mem_passedNodes_iff member).symm

theorem Unambiguous.mem_passedNodes_noneOf (unambiguous : Unambiguous schema root)
    (members : List Selector) (node : ν) :
    node ∈ passedNodes schema root (.group .noneOf members false) ↔
      Enters schema root node ∧
        ¬ ∃ selector ∈ members, node ∈ passedNodes schema root selector := by
  refine unambiguous.mem_passedNodes_iff_of fun above member => ?_
  show (!Selector.testAny schema members node above) = true ↔ _
  rw [Bool.not_eq_true', Bool.eq_false_iff]
  exact not_congr (unambiguous.testAny_iff member)

theorem Unambiguous.mem_passedNodes_child (unambiguous : Unambiguous schema root)
    (left right : Selector) (node : ν) :
    node ∈ passedNodes schema root (.relation .child left right false) ↔
      node ∈ passedNodes schema root right ∧
        ∃ parent, IsParent schema root parent node ∧ parent ∈ passedNodes schema root left := by
  rw [unambiguous.mem_passedNodes_iff_of]
  · exact and_iff_right_of_imp fun found => enters_of_mem_passedNodes found.1
  intro above member
  show (right.test schema node above && parentSatisfies (left.test schema) above) = true ↔ _
  rw [Bool.and_eq_true, unambiguous.mem_passedNodes_iff member]
  refine and_congr_right fun _ => ?_
  constructor
  · intro satisfied
    cases above with
    | nil => cases satisfied
    | cons parent rest =>
        exact ⟨parent, isParent_iff.mpr ⟨rest, member⟩,
          (unambiguous.mem_passedNodes_iff (mem_visits_parent member)).mpr satisfied⟩
  · intro found
    obtain ⟨parent, isParent, passed⟩ := found
    obtain ⟨rest, rfl⟩ := unambiguous.ancestry_of_isParent member isParent
    exact (unambiguous.mem_passedNodes_iff (mem_visits_parent member)).mp passed

theorem Unambiguous.mem_passedNodes_descendant (unambiguous : Unambiguous schema root)
    (left right : Selector) (node : ν) :
    node ∈ passedNodes schema root (.relation .descendant left right false) ↔
      node ∈ passedNodes schema root right ∧ ∃ ancestor,
        Relation.TransGen (IsParent schema root) ancestor node ∧
          ancestor ∈ passedNodes schema root left := by
  rw [unambiguous.mem_passedNodes_iff_of]
  · exact and_iff_right_of_imp fun found => enters_of_mem_passedNodes found.1
  intro above member
  show (right.test schema node above && someAncestorSatisfies (left.test schema) above) = true ↔ _
  rw [Bool.and_eq_true, unambiguous.mem_passedNodes_iff member]
  refine and_congr_right fun _ => ?_
  constructor
  · intro satisfied
    cases above with
    | nil => cases satisfied
    | cons parent rest =>
        obtain ⟨ancestor, inLineage, passed⟩ := someAncestorSatisfies_iff.mp satisfied
        have isAbove : ancestor.node ∈ parent :: rest := by
          rw [← Visit.map_node_lineageOf]
          exact List.mem_map_of_mem inLineage
        have ancestorMember := mem_visits_of_mem_lineage (mem_visits_parent member) inLineage
        exact ⟨ancestor.node, transGen_isParent_of_mem member isAbove,
          (unambiguous.mem_passedNodes_iff ancestorMember).mpr passed⟩
  · intro found
    obtain ⟨ancestor, leads, passed⟩ := found
    have isAbove := unambiguous.mem_of_transGen_isParent member leads
    cases above with
    | nil => cases isAbove
    | cons parent rest =>
        rw [← Visit.map_node_lineageOf] at isAbove
        obtain ⟨visit, inLineage, rfl⟩ := List.mem_map.mp isAbove
        have ancestorMember := mem_visits_of_mem_lineage (mem_visits_parent member) inLineage
        exact someAncestorSatisfies_iff.mpr
          ⟨visit, inLineage, (unambiguous.mem_passedNodes_iff ancestorMember).mp passed⟩

theorem Unambiguous.mem_passedNodes_of_searches (unambiguous : Unambiguous schema root)
    (accepted : (traversalEvents schema root).refusal? = none)
    {IsBeside : List (Value ν) → ν → ν → Prop} {search : (ν → Bool) → ν → List ν → Bool}
    (searches : Searches schema root IsBeside search) {combined left right : Selector}
    (combined_eq : ∀ node above, combined.test schema node above =
      (right.test schema node above && search (left.test schema · above) node above ||
        left.test schema node above && search (right.test schema · above) node above))
    (node : ν) :
    node ∈ passedNodes schema root combined ↔
      RelatedInLists IsBeside schema root (passedNodes schema root left)
        (passedNodes schema root right) node := by
  rw [unambiguous.mem_passedNodes_iff_of fun above member => by
    rw [combined_eq]
    exact unambiguous.relatedInLists_iff accepted searches member]
  refine and_iff_right_of_imp ?_
  intro related
  obtain ⟨parent, isParent, _⟩ := related
  exact ⟨some parent, isParent⟩

/-- Queries compose in every tree whose nodes are told apart and that the traversal accepts. -/
theorem Unambiguous.composes (unambiguous : Unambiguous schema root)
    (accepted : (traversalEvents schema root).refusal? = none) :
    Composes schema root (passedNodes schema root) where
  wildcard := passedNodes_wildcard
  inOrder selector _ := unambiguous.exists_passedNodes_eq_filter selector
  allOf members _ := unambiguous.mem_passedNodes_allOf members
  anyOf members _ := unambiguous.mem_passedNodes_anyOf members
  noneOf members _ := unambiguous.mem_passedNodes_noneOf members
  child left right _ _ := unambiguous.mem_passedNodes_child left right
  descendant left right _ _ := unambiguous.mem_passedNodes_descendant left right
  sibling _ _ _ _ := unambiguous.mem_passedNodes_of_searches accepted
    (unambiguous.searches_siblings accepted) fun _ _ => rfl
  adjacent _ _ _ _ := unambiguous.mem_passedNodes_of_searches accepted
    (unambiguous.searches_neighbours accepted) fun _ _ => rfl
  anyOf_single selector _ := by
    refine congrArg (List.map Visit.node) (List.filter_congr fun visit _ => ?_)
    exact Bool.or_false _
  noneOf_single selector _ := by
    have complement : passedNodes schema root (.group .noneOf [selector] false) =
        ((visits schema (.root root)).state.filter
          (!Visit.passes schema selector ·)).map Visit.node := by
      refine congrArg (List.map Visit.node) (List.filter_congr fun visit _ => ?_)
      exact congrArg Bool.not (Bool.or_false _)
    rw [passedNodes_wildcard, enteredNodes_eq_map_visits, complement]
    exact interleaves_filter _ _ _

/-- Queries without marks compose in every document that the traversal accepts, whatever fields the
schema names: each has a report, and the reports obey the laws of composition. -/
theorem queries_compose (document : Json) (root : DocumentNode) (schema : Schema DocumentNode)
    (isRoot : DocumentNode.root? document = some root)
    (accepted : (traversalEvents schema root).refusal? = none) :
    ∃ reported : Selector → List DocumentNode,
      (∀ selector, selector.Unmarked → matchTree schema selector root = .ok (reported selector)) ∧
        Composes schema root reported :=
  ⟨passedNodes schema root, fun _ unmarked => matchTree_of_unmarked accepted unmarked,
    (unambiguous_of_root? isRoot schema).composes accepted⟩

def twoNames : Json :=
  .object [("type", .string "ArrayExpression"), ("elements", .array [
    .object [("type", .string "Identifier")], .object [("type", .string "Identifier")]])]

/-- The two names are entered under the standard schema, and queries compose there. -/
theorem queries_compose_in_twoNames :
    DocumentNode.root? twoNames = some ⟨[], twoNames⟩ ∧
      (traversalEvents DocumentSchema.standard.childFields ⟨[], twoNames⟩).refusal? = none ∧
      ∃ reported : Selector → List DocumentNode,
        (∀ selector, selector.Unmarked →
          matchTree DocumentSchema.standard.childFields selector ⟨[], twoNames⟩ =
            .ok (reported selector)) ∧
        Composes DocumentSchema.standard.childFields ⟨[], twoNames⟩ reported := by
  have isRoot : DocumentNode.root? twoNames = some ⟨[], twoNames⟩ := rfl
  let name (index : Nat) : DocumentNode :=
    ⟨[.member "elements", .element index], .object [("type", .string "Identifier")]⟩
  have elements : children DocumentSchema.standard.childFields ⟨[], twoNames⟩ =
      .ok [name 0, name 1] := rfl
  have below (index : Nat) : children DocumentSchema.standard.childFields (name index) = .ok [] :=
    rfl
  have accepted :
      (traversalEvents DocumentSchema.standard.childFields ⟨[], twoNames⟩).refusal? = none := by
    rw [(traversal_tracks _ _).refusal, visits_of_children elements]
    simp only [List.map_cons, List.map_nil]
    rw [visits_of_children (below 0), visits_of_children (below 1)]
    rfl
  exact ⟨isRoot, accepted, queries_compose twoNames _ _ isRoot accepted⟩

end SyntaxQuery
