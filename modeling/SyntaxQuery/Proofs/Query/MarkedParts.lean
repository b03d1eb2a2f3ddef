import SyntaxQuery.Proofs.Query.Composition

/-!
Contract: marked parts of a selector are found where the whole selector matches.

A mark stands for the scope around it, and a scope is opened on the left of a combinator. As long as
the way to a mark only leads through parts that match at the node itself, its parent or an ancestor,
the scope matches there too. The induction is on the selector and carries the node at which the
present scope matches, with its ancestors (`Selector.foundAlong_fragments`).

Does not own: marks below alternatives, negations, siblings and neighbours.
-/

namespace SyntaxQuery

/-- Whether the left side of a combinator is matched at an ancestor of the node. -/
def Combinator.ascends : Combinator → Bool
  | .child => true
  | .descendant => true
  | .sibling => false
  | .adjacent => false

namespace Selector

mutual

/-- Every mark in a selector, apart from its own, is reached through members that all have to match,
through either side of a child or descendant relation, or through what stands at a place. -/
def marksAscend : Selector → Bool
  | .single _ _ => true
  | .group .allOf members _ => allMarksAscend members
  | .group .anyOf members _ => !anyHasMark members
  | .group .noneOf members _ => !anyHasMark members
  | .relation combinator left right _ =>
      if combinator.ascends then marksAscend left && marksAscend right
      else !hasMark left && !hasMark right
  | .place _ _ none _ => true
  | .place _ _ (some inner) _ => marksAscend inner

def allMarksAscend : List Selector → Bool
  | [] => true
  | first :: rest => marksAscend first && allMarksAscend rest

end

end Selector

variable {ν : Type}

variable [SyntaxNode ν] {schema : Schema ν} {node : ν} {above : List ν}

/-- Where a combinator that ascends holds, its right side holds at the node and its left side at an
ancestor, with the ancestors above that one. -/
theorem Combinator.exists_above_of_holds {combinator : Combinator}
    (ascends : combinator.ascends = true) {left right : ν → List ν → Bool}
    (holds : combinator.holds schema left right node above = true) :
    right node above = true ∧
      ∃ visit ∈ Visit.lineageOf node above, left visit.node visit.ancestry = true := by
  cases combinator with
  | child =>
      rw [Combinator.holds, Bool.and_eq_true] at holds
      obtain ⟨rightHolds, parentHolds⟩ := holds
      cases above with
      | nil => cases parentHolds
      | cons parent rest =>
          exact ⟨rightHolds, ⟨parent, rest⟩,
            List.mem_cons_of_mem _ (Visit.mem_lineageOf_self parent rest), parentHolds⟩
  | descendant =>
      rw [Combinator.holds, Bool.and_eq_true] at holds
      obtain ⟨rightHolds, ancestorHolds⟩ := holds
      cases above with
      | nil => cases ancestorHolds
      | cons parent rest =>
          obtain ⟨visit, inLineage, leftHolds⟩ := someAncestorSatisfies_iff.mp ancestorHolds
          exact ⟨rightHolds, visit, List.mem_cons_of_mem _ inLineage, leftHolds⟩
  | sibling => cases ascends
  | adjacent => cases ascends

/-! ## Fragments found from a node on -/

/-- Each of some selectors matches at the node or at one of its ancestors, with the ancestors above
that one. -/
def FoundAlong (schema : Schema ν) (node : ν) (above : List ν) (selectors : List Selector) : Prop :=
  ∀ selector ∈ selectors, ∃ visit ∈ Visit.lineageOf node above, visit.passes schema selector = true

namespace FoundAlong

theorem append {first second : List Selector} (firstFound : FoundAlong schema node above first)
    (secondFound : FoundAlong schema node above second) :
    FoundAlong schema node above (first ++ second) := fun selector member =>
  (List.mem_append.mp member).elim (firstFound selector) (secondFound selector)

theorem own {scope : Selector} (matched : scope.test schema node above = true) (subject : Bool) :
    FoundAlong schema node above (scope.own subject) := by
  intro selector member
  cases subject with
  | false => cases member
  | true =>
      rw [List.mem_singleton.mp member]
      exact ⟨⟨node, above⟩, Visit.mem_lineageOf_self node above, matched⟩

theorem of_mem_lineageOf {selectors : List Selector} {visit : Visit ν}
    (member : visit ∈ Visit.lineageOf node above)
    (found : FoundAlong schema visit.node visit.ancestry selectors) :
    FoundAlong schema node above selectors := by
  intro selector isOne
  obtain ⟨ancestor, isAbove, matched⟩ := found selector isOne
  exact ⟨ancestor, (Visit.lineage_suffix_of_mem_lineageOf member).subset isAbove, matched⟩

end FoundAlong

namespace Selector

mutual

/-- The fragments for the marks in a part of a selector are found from a node on at which the part
matches, if the scope around the part matches there. On the left of a combinator the part is a scope
of its own, and the node is the ancestor at which it matches. -/
theorem foundAlong_fragments : ∀ (part : Selector), part.marksAscend = true →
    ∀ {scope : Selector} {node : ν} {above : List ν}, scope.test schema node above = true →
      part.test schema node above = true → FoundAlong schema node above (fragments scope part)
  | .single _ subject, _, scope, node, above, scopeMatched, _ => by
      rw [fragments]
      exact .own scopeMatched subject
  | .group .allOf members subject, ascends, scope, node, above, scopeMatched, matched => by
      rw [marksAscend] at ascends
      rw [test] at matched
      rw [fragments]
      exact .append (.own scopeMatched subject)
        (foundAlong_memberFragments members ascends scopeMatched matched)
  | .group .anyOf members subject, ascends, scope, node, above, scopeMatched, _ => by
      rw [marksAscend, Bool.not_eq_true'] at ascends
      rw [fragments, memberFragments_of_unmarked scope members ascends, List.append_nil]
      exact .own scopeMatched subject
  | .group .noneOf members subject, ascends, scope, node, above, scopeMatched, _ => by
      rw [marksAscend, Bool.not_eq_true'] at ascends
      rw [fragments, memberFragments_of_unmarked scope members ascends, List.append_nil]
      exact .own scopeMatched subject
  | .relation combinator left right subject, ascends, scope, node, above, scopeMatched,
      matched => by
      rw [marksAscend] at ascends
      rw [test] at matched
      rw [fragments]
      split at ascends
      · next combinatorAscends =>
          rw [Bool.and_eq_true] at ascends
          obtain ⟨rightMatched, visit, member, leftMatched⟩ :=
            Combinator.exists_above_of_holds combinatorAscends matched
          have leftFound : FoundAlong schema node above (fragments left left) :=
            .of_mem_lineageOf member (foundAlong_fragments left ascends.1 leftMatched leftMatched)
          exact .append (.append (.own scopeMatched subject) leftFound)
            (foundAlong_fragments right ascends.2 scopeMatched rightMatched)
      · -- Neither side has a mark, so only that of the relation itself counts.
        rw [Bool.and_eq_true, Bool.not_eq_true', Bool.not_eq_true'] at ascends
        rw [fragments_of_unmarked left left ascends.1, fragments_of_unmarked scope right ascends.2,
          List.append_nil, List.append_nil]
        exact .own scopeMatched subject
  | .place _ _ none subject, _, scope, node, above, scopeMatched, _ => by
      rw [fragments]
      exact .own scopeMatched subject
  | .place _ _ (some inner) subject, ascends, scope, node, above, scopeMatched, matched => by
      rw [marksAscend] at ascends
      rw [test, Bool.and_eq_true] at matched
      rw [fragments]
      exact .append (.own scopeMatched subject)
        (foundAlong_fragments inner ascends scopeMatched matched.1)

theorem foundAlong_memberFragments : ∀ (members : List Selector), allMarksAscend members = true →
    ∀ {scope : Selector} {node : ν} {above : List ν}, scope.test schema node above = true →
      testAll schema members node above = true →
      FoundAlong schema node above (memberFragments scope members)
  | [], _, _, _, _, _, _ => fun _ member => by cases member
  | first :: rest, ascends, scope, node, above, scopeMatched, matched => by
      rw [allMarksAscend, Bool.and_eq_true] at ascends
      rw [testAll, Bool.and_eq_true] at matched
      rw [memberFragments]
      exact .append (foundAlong_fragments first ascends.1 scopeMatched matched.1)
        (foundAlong_memberFragments rest ascends.2 scopeMatched matched.2)

end

end Selector

/-! ## Reports -/

theorem fragmentReports_ne_nil {fragment : Selector} {fragments : List Selector} {visit : Visit ν}
    (found : FoundAlong schema visit.node visit.ancestry fragments)
    (member : fragment ∈ fragments) :
    fragmentReports schema visit.node visit.ancestry fragment ≠ [] := by
  obtain ⟨ancestor, inLineage, matched⟩ := found fragment member
  rw [fragmentReports_eq_accepted]
  exact List.ne_nil_of_mem
    (List.mem_map_of_mem (List.mem_filter.mpr ⟨inLineage, matched⟩))

/-- Where a selector matches whose marks only lie on the way of combinators that ascend, each of its
fragments matches at the node or at an ancestor. So at every visit at which such a selector with a
mark matches, each fragment makes the query report a node. -/
theorem marked_parts_found (schema : Schema ν) (selector : Selector)
    (ascends : selector.marksAscend = true) :
    (∀ node above, selector.test schema node above = true →
      ∀ fragment ∈ selector.subjects, ∃ visit ∈ Visit.lineageOf node above,
        fragment.test schema visit.node visit.ancestry = true) ∧
    ∀ root, (traversalEvents schema root).refusal? = none → selector.hasMark = true →
      matchTree schema selector root =
        .ok (((visits schema (.root root)).state.filter (Visit.passes schema selector)).flatMap
          fun visit => selector.subjects.flatMap
            (fragmentReports schema visit.node visit.ancestry)) ∧
      ∀ visit ∈ (visits schema (.root root)).state, visit.passes schema selector = true →
        ∀ fragment ∈ selector.subjects,
          fragmentReports schema visit.node visit.ancestry fragment ≠ [] := by
  have found {node : ν} {above : List ν} (matched : selector.test schema node above = true) :
      FoundAlong schema node above selector.subjects :=
    Selector.foundAlong_fragments selector ascends matched matched
  constructor
  · exact fun node above matched => found matched
  intro root accepted marked
  constructor
  · have hasFragment := Selector.subjects_ne_nil_of_hasMark marked
    rw [matchTree_of_accepted accepted]
    simp only [flatMap_reports, matchReports_of_ne_nil hasFragment]
  · exact fun visit _ passed fragment member => fragmentReports_ne_nil (found passed) member

/-- Any node with a node named `B` somewhere inside, both marked. -/
def markedAbove : Selector :=
  .relation .descendant (.single .wildcard true)
    (.group .allOf [.single (.identifier "B") true, .single .wildcard false] false) false

/-- Both marks are found for the inner node, which makes the query report a node for each. -/
theorem markedAbove_found_in_outerNode :
    markedAbove.marksAscend = true ∧ markedAbove.hasMark = true ∧
      markedAbove.test (fun _ => .ok ["b"]) innerNode [outerNode] = true ∧
      (traversalEvents (fun _ => .ok ["b"]) outerNode).refusal? = none ∧
      (∀ fragment ∈ markedAbove.subjects, ∃ visit ∈ Visit.lineageOf innerNode [outerNode],
        fragment.test (fun _ => .ok ["b"]) visit.node visit.ancestry = true) ∧
      ∀ fragment ∈ markedAbove.subjects,
        fragmentReports (fun _ => .ok ["b"]) innerNode [outerNode] fragment ≠ [] := by
  have ascends : markedAbove.marksAscend = true := rfl
  have marked : markedAbove.hasMark = true := rfl
  have matched : markedAbove.test (fun _ => .ok ["b"]) innerNode [outerNode] = true := by decide
  have accepted : (traversalEvents (fun _ => .ok ["b"]) outerNode).refusal? = none := by
    rw [(traversal_tracks _ _).refusal, visits_outerNode]
  have member : ⟨innerNode, [outerNode]⟩ ∈
      (visits (fun _ => .ok ["b"]) (.root outerNode)).state := by
    rw [visits_outerNode]
    exact List.mem_cons_of_mem _ List.mem_cons_self
  obtain ⟨found, reported⟩ :=
    marked_parts_found (fun _ : DocumentNode => .ok ["b"]) markedAbove ascends
  exact ⟨ascends, marked, matched, accepted, found innerNode [outerNode] matched,
    (reported outerNode accepted marked).2 _ member matched⟩

end SyntaxQuery
