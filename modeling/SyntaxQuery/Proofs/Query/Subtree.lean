import Mathlib.Data.List.Basic
import SyntaxQuery.Proofs.Query.Composition
import SyntaxQuery.Proofs.Traversal.Extension
import SyntaxQuery.Proofs.Traversal.Images

/-!
Contract: queries of the tree below a node, against queries of the whole tree.

Below a node the ancestors are those up to that node, and in the whole tree there are more of them
at the far end. Without negations a test that holds still holds under more ancestors
(`Selector.test_append`), so a query of the part finds nothing that one of the whole misses.

Does not own: selectors with marks, which also report ancestors.
-/

namespace SyntaxQuery

namespace Selector

mutual

/-- Whether a selector is a negation or has one in it, at any depth. -/
def hasNegation : Selector → Bool
  | .single _ _ => false
  | .group .anyOf members _ => anyHasNegation members
  | .group .allOf members _ => anyHasNegation members
  | .group .noneOf _ _ => true
  | .relation _ left right _ => hasNegation left || hasNegation right
  | .place _ _ none _ => false
  | .place _ _ (some inner) _ => hasNegation inner

/-- Whether there is a negation in one of several selectors. -/
def anyHasNegation : List Selector → Bool
  | [] => false
  | first :: rest => hasNegation first || anyHasNegation rest

end

end Selector

variable {ν : Type} [SyntaxNode ν] {schema : Schema ν}

/-! ## More ancestors -/

section Relations

variable {node : ν} {above : List ν} (more : List ν)

/-- The lists of the parent are the same under more ancestors, if there is a parent at all. -/
theorem any_parentLists_append {accepts weaker : List (Value ν) → Bool}
    (weaken : ∀ items, accepts items = true → weaker items = true)
    (found : (parentLists schema above).any accepts = true) :
    (parentLists schema (above ++ more)).any weaker = true := by
  cases above with
  | nil => cases found
  | cons parent rest =>
      obtain ⟨items, isList, accepted⟩ := List.any_eq_true.mp found
      exact List.any_eq_true.mpr ⟨items, isList, weaken items accepted⟩

theorem standsAt_append {placeIn : Nat → Option Nat}
    (stands : standsAt schema placeIn node above = true) :
    standsAt schema placeIn node (above ++ more) = true :=
  any_parentLists_append more (fun _ accepted => accepted) stands

variable {accepts weaker : ν → Bool} (weaken : ∀ other, accepts other = true → weaker other = true)

include weaken

theorem hasSibling_append (found : hasSibling schema accepts node above = true) :
    hasSibling schema weaker node (above ++ more) = true := by
  refine any_parentLists_append more (fun items accepted => ?_) found
  obtain ⟨item, isItem, isSibling⟩ := List.any_eq_true.mp accepted
  obtain ⟨other, isNode, differs⟩ := (Option.any_eq_true _ _).mp isSibling
  rw [Bool.and_eq_true] at differs
  refine List.any_eq_true.mpr ⟨item, isItem, (Option.any_eq_true _ _).mpr ⟨other, isNode, ?_⟩⟩
  rw [differs.1, weaken other differs.2]
  rfl

theorem hasNeighbour_append (found : hasNeighbour schema accepts node above = true) :
    hasNeighbour schema weaker node (above ++ more) = true := by
  have weakenAt {found? : Option ν} (accepted : found?.any accepts = true) :
      found?.any weaker = true := by
    obtain ⟨other, isFound, passed⟩ := (Option.any_eq_true _ _).mp accepted
    exact (Option.any_eq_true _ _).mpr ⟨other, isFound, weaken other passed⟩
  refine any_parentLists_append more (fun items accepted => ?_) found
  cases isAt : placeOf? node items with
  | none => simp [isAt] at accepted
  | some place =>
      simp only [isAt, Bool.or_eq_true, Bool.and_eq_true] at accepted ⊢
      exact accepted.imp (And.imp_right weakenAt) weakenAt

end Relations

/-- A combinator still holds under more ancestors if both its sides do. -/
theorem Combinator.holds_append (combinator : Combinator) {left right : ν → List ν → Bool}
    (more : List ν)
    (leftWeakens : ∀ node above, left node above = true → left node (above ++ more) = true)
    (rightWeakens : ∀ node above, right node above = true → right node (above ++ more) = true)
    {node : ν} {above : List ν} (holds : combinator.holds schema left right node above = true) :
    combinator.holds schema left right node (above ++ more) = true := by
  cases combinator with
  | child =>
      rw [Combinator.holds, Bool.and_eq_true] at holds ⊢
      refine holds.imp (rightWeakens node above) fun parentHolds => ?_
      cases above with
      | nil => cases parentHolds
      | cons parent rest => exact leftWeakens parent rest parentHolds
  | descendant =>
      rw [Combinator.holds, Bool.and_eq_true] at holds ⊢
      refine holds.imp (rightWeakens node above) fun ancestorHolds => ?_
      clear holds
      induction above with
      | nil => cases ancestorHolds
      | cons ancestor rest inductionHypothesis =>
          rw [List.cons_append]
          rw [someAncestorSatisfies, Bool.or_eq_true] at ancestorHolds ⊢
          exact ancestorHolds.imp (leftWeakens ancestor rest) inductionHypothesis
  | sibling =>
      simp only [Combinator.holds, Bool.or_eq_true, Bool.and_eq_true] at holds ⊢
      exact holds.imp
        (And.imp (rightWeakens node above)
          (hasSibling_append more fun other => leftWeakens other above))
        (And.imp (leftWeakens node above)
          (hasSibling_append more fun other => rightWeakens other above))
  | adjacent =>
      simp only [Combinator.holds, Bool.or_eq_true, Bool.and_eq_true] at holds ⊢
      exact holds.imp
        (And.imp (rightWeakens node above)
          (hasNeighbour_append more fun other => leftWeakens other above))
        (And.imp (leftWeakens node above)
          (hasNeighbour_append more fun other => rightWeakens other above))

theorem NodeTest.holds_append {test : NodeTest} {node : ν} {above : List ν} (more : List ν)
    (holds : test.holds node above = true) : test.holds node (above ++ more) = true := by
  cases test with
  | field path =>
      rw [NodeTest.holds] at holds ⊢
      cases found : above[(Text.segments path).length - 1]? with
      | none => simp [found] at holds
      | some ancestor =>
          obtain ⟨inBounds, isAt⟩ := List.getElem?_eq_some_iff.mp found
          rw [List.getElem?_append_left inBounds, found]
          simpa only [found] using holds
  | _ => exact holds

namespace Selector

mutual

/-- A selector without negations that matches a node under some ancestors also matches it if there
are more of them above. -/
theorem test_append (more : List ν) : ∀ (selector : Selector), selector.hasNegation = false →
    ∀ (node : ν) (above : List ν), selector.test schema node above = true →
      selector.test schema node (above ++ more) = true
  | .single test _, _, node, above, matched => by
      rw [Selector.test] at matched ⊢
      exact NodeTest.holds_append more matched
  | .group .anyOf members _, positive, node, above, matched => by
      rw [hasNegation] at positive
      rw [test] at matched ⊢
      exact (testMembers_append more members positive node above).1 matched
  | .group .allOf members _, positive, node, above, matched => by
      rw [hasNegation] at positive
      rw [test] at matched ⊢
      exact (testMembers_append more members positive node above).2 matched
  | .group .noneOf members _, positive, node, above, matched => by
      rw [hasNegation] at positive
      cases positive
  | .relation combinator left right _, positive, node, above, matched => by
      rw [hasNegation, Bool.or_eq_false_iff] at positive
      rw [test] at matched ⊢
      exact combinator.holds_append more (test_append more left positive.1)
        (test_append more right positive.2) matched
  | .place edge index none _, _, node, above, matched => by
      rw [test] at matched ⊢
      exact standsAt_append more matched
  | .place edge index (some inner) _, positive, node, above, matched => by
      rw [hasNegation] at positive
      rw [test, Bool.and_eq_true] at matched ⊢
      exact matched.imp (test_append more inner positive node above) (standsAt_append more)

theorem testMembers_append (more : List ν) : ∀ (members : List Selector),
    anyHasNegation members = false → ∀ (node : ν) (above : List ν),
      (testAny schema members node above = true →
        testAny schema members node (above ++ more) = true) ∧
      (testAll schema members node above = true →
        testAll schema members node (above ++ more) = true)
  | [], _, node, above => ⟨fun matched => absurd matched Bool.false_ne_true, fun _ => rfl⟩
  | first :: rest, positive, node, above => by
      rw [anyHasNegation, Bool.or_eq_false_iff] at positive
      have firstMatches := test_append more first positive.1 node above
      obtain ⟨anyMatches, allMatch⟩ := testMembers_append more rest positive.2 node above
      rw [testAny, testAny, testAll, testAll, Bool.or_eq_true, Bool.or_eq_true, Bool.and_eq_true,
        Bool.and_eq_true]
      exact ⟨Or.imp firstMatches anyMatches, And.imp firstMatches allMatch⟩

end

end Selector

/-! ## Visits below a node -/

/-- The visit with more ancestors above. -/
def Visit.under (more : List ν) (visit : Visit ν) : Visit ν :=
  ⟨visit.node, visit.ancestry ++ more⟩

/-- With more ancestors above the visit where it starts, a traversal makes the same visits under
these. -/
theorem visits_under (more : List ν) (start : Visit ν) :
    visits schema (start.under more) = (visits schema start).map (Visit.under more) := by
  obtain ⟨node, above⟩ := start
  induction node using tree_induction schema generalizing above with
  | refused node refusal found =>
      have foundUnder : children schema (Visit.under more ⟨node, above⟩).node = .error refusal :=
        found
      have whole : visits schema ⟨node, above⟩ = _ := visits_of_refused found
      rw [visits_of_refused foundUnder, whole]
      rfl
  | accepted node kids found inductionHypothesis =>
      have foundUnder : children schema (Visit.under more ⟨node, above⟩).node = .ok kids := found
      have whole : visits schema ⟨node, above⟩ = _ := visits_of_children found
      rw [visits_of_children foundUnder, whole, Outcome.map_andThen]
      congr 1
      exact joinWalks_map_of_seen fun child isChild _ =>
        inductionHypothesis child isChild (node :: above)

/-- Visits under more ancestors pass where they pass without these. -/
theorem passed_sublist_under {selector : Selector} (positive : selector.hasNegation = false)
    (more : List ν) (seen : List (Visit ν)) :
    ((seen.filter (Visit.passes schema selector)).map Visit.node).Sublist
      (((seen.map (Visit.under more)).filter (Visit.passes schema selector)).map Visit.node) := by
  rw [List.filter_map, List.map_map]
  refine List.Sublist.map Visit.node (List.monotone_filter_right seen fun visit passed => ?_)
  exact selector.test_append more positive visit.node visit.ancestry passed

/-- A selector without negations keeps matching a node as ancestors are added above. So without
marks, its query of the tree below any entered node reports, in order, some of what its query of the
whole tree reports. -/
theorem subtree_query_sublist (schema : Schema ν) (selector : Selector)
    (positive : selector.hasNegation = false) :
    (∀ (node : ν) (above more : List ν), selector.test schema node above = true →
      selector.test schema node (above ++ more) = true) ∧
    (selector.Unmarked → ∀ root : ν, (traversalEvents schema root).refusal? = none →
      ∀ node, Enters schema root node → ∃ below reported : List ν,
        matchTree schema selector node = .ok below ∧
          matchTree schema selector root = .ok reported ∧ below.Sublist reported) := by
  refine ⟨fun node above more => selector.test_append more positive node above, ?_⟩
  intro unmarked root accepted node entered
  obtain ⟨above, member⟩ := enters_iff.mp entered
  have rootAccepted : (visits schema (.root root)).refusal? = none := by
    rw [← (traversal_tracks schema root).refusal, accepted]
  obtain ⟨belowAccepted, within⟩ := visits_infix rootAccepted member
  have underAbove : visits schema ⟨node, above⟩ =
      (visits schema (.root node)).map (Visit.under above) := visits_under above (.root node)
  rw [underAbove] at belowAccepted within
  have nodeAccepted : (traversalEvents schema node).refusal? = none := by
    rw [(traversal_tracks schema node).refusal]
    exact belowAccepted
  refine ⟨_, _, matchTree_of_unmarked nodeAccepted unmarked,
    matchTree_of_unmarked accepted unmarked,
    (passed_sublist_under positive above _).trans ?_⟩
  exact (within.sublist.filter _).map Visit.node

/-- The nodes that have a parent. -/
def anyChild : Selector :=
  .relation .child (.single .wildcard false) (.single .wildcard false) false

/-- Below the inner node no node has a parent, and in the whole tree the inner node has one. -/
theorem anyChild_below_innerNode :
    anyChild.hasNegation = false ∧ anyChild.Unmarked ∧
      Selector.test (fun _ => .ok ["b"]) anyChild innerNode [outerNode] = true ∧
      Selector.test (fun _ => .ok ["b"]) anyChild innerNode [outerNode, outerNode] = true ∧
      (traversalEvents (fun _ => .ok ["b"]) outerNode).refusal? = none ∧
      Enters (fun _ => .ok ["b"]) outerNode innerNode ∧
      ∃ below reported, matchTree (fun _ => .ok ["b"]) anyChild innerNode = .ok below ∧
        matchTree (fun _ => .ok ["b"]) anyChild outerNode = .ok reported ∧
        below.Sublist reported := by
  obtain ⟨underMore, inTrees⟩ :=
    subtree_query_sublist (fun _ => .ok ["b"] : Schema DocumentNode) anyChild rfl
  have accepted : (traversalEvents (fun _ => .ok ["b"]) outerNode).refusal? = none := by
    rw [(traversal_tracks _ _).refusal, visits_outerNode]
  have entered : Enters (fun _ => .ok ["b"]) outerNode innerNode := by
    refine enters_iff.mpr ⟨[outerNode], ?_⟩
    rw [visits_outerNode]
    exact List.mem_cons_of_mem _ List.mem_cons_self
  exact ⟨rfl, rfl, rfl, underMore innerNode [outerNode] [outerNode] rfl, accepted, entered,
    inTrees rfl outerNode accepted innerNode entered⟩

end SyntaxQuery
