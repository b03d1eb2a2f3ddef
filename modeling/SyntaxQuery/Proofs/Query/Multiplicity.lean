import Mathlib.Data.List.Nodup
import SyntaxQuery.Proofs.Query.Composition

/-!
Contract: how often a query reports a node.

In a traversal that enters each node at most once, a node has one visit, and the lineage of another
visit contains it at most once. So a visit at which the selector matches contributes a node once for
each fragment that the node's own visit passes, and counting over the visits gives a product
(`matchTree_count`).

Does not own: the order of the reports.
-/

namespace SyntaxQuery

/-- An element is counted the same number of times for each item that passes a test. -/
theorem count_flatMap_of_forall {α β : Type} [BEq β] {each : α → List β} {counted : β}
    {passes : α → Bool} {amount : Nat} {items : List α}
    (counts : ∀ item ∈ items, (each item).count counted = if passes item then amount else 0) :
    (items.flatMap each).count counted = items.countP passes * amount := by
  induction items with
  | nil => simp
  | cons item rest inductionHypothesis =>
      rw [List.flatMap_cons, List.count_append, counts item List.mem_cons_self,
        inductionHypothesis fun other member => counts other (List.mem_cons_of_mem item member),
        List.countP_cons]
      by_cases passed : passes item = true
      · rw [if_pos passed, if_pos passed, Nat.add_mul, Nat.one_mul, Nat.add_comm]
      · rw [if_neg passed, if_neg passed, Nat.zero_add, Nat.add_zero]

variable {ν : Type}

/-- Whether a visit is that of a node or of one below it. -/
def Visit.isWithin [DecidableEq ν] (node : ν) (visit : Visit ν) : Bool :=
  decide (node ∈ visit.node :: visit.ancestry)

theorem Visit.nodup_lineageOf (node : ν) (above : List ν) : (lineageOf node above).Nodup := by
  induction above generalizing node with
  | nil => exact List.nodup_singleton _
  | cons parent rest inductionHypothesis =>
      refine List.nodup_cons.mpr ⟨fun member => ?_, inductionHypothesis parent⟩
      -- The lineage of a visit further up would be as long as the one that it is a part of.
      have shorter := (lineage_suffix_of_mem_lineageOf member).length_le
      exact absurd shorter (Nat.not_succ_le_self _)

variable [SyntaxNode ν] {schema : Schema ν} {root : ν}

/-! ## One visit for a node -/

theorem visit_eq_of_node_eq (once : (enteredNodes schema root).Nodup) {left right : Visit ν}
    (leftMember : left ∈ (visits schema (.root root)).state)
    (rightMember : right ∈ (visits schema (.root root)).state)
    (same : left.node = right.node) : left = right := by
  rw [enteredNodes_eq_map_visits] at once
  exact List.inj_on_of_nodup_map once leftMember rightMember same

theorem mem_lineage_iff_isWithin [DecidableEq ν] (once : (enteredNodes schema root).Nodup)
    {visit other : Visit ν} (member : visit ∈ (visits schema (.root root)).state)
    (otherMember : other ∈ (visits schema (.root root)).state) :
    visit ∈ other.lineage ↔ other.isWithin visit.node = true := by
  rw [Visit.isWithin, decide_eq_true_iff, ← Visit.map_node_lineageOf, List.mem_map]
  constructor
  · exact fun inLineage => ⟨visit, inLineage, rfl⟩
  · intro found
    obtain ⟨ancestor, inLineage, same⟩ := found
    have ancestorMember := mem_visits_of_mem_lineage otherMember inLineage
    rwa [← visit_eq_of_node_eq once ancestorMember member same]

theorem node_mem_map_iff (once : (enteredNodes schema root).Nodup) {visit : Visit ν}
    (member : visit ∈ (visits schema (.root root)).state) {seen : List (Visit ν)}
    (visited : ∀ other ∈ seen, other ∈ (visits schema (.root root)).state) :
    visit.node ∈ seen.map Visit.node ↔ visit ∈ seen := by
  rw [List.mem_map]
  constructor
  · intro found
    obtain ⟨other, isThere, same⟩ := found
    rwa [← visit_eq_of_node_eq once (visited other isThere) member same]
  · exact fun isThere => ⟨visit, isThere, rfl⟩

theorem nodup_map_node (once : (enteredNodes schema root).Nodup) {seen : List (Visit ν)}
    (distinct : seen.Nodup)
    (visited : ∀ other ∈ seen, other ∈ (visits schema (.root root)).state) :
    (seen.map Visit.node).Nodup :=
  distinct.map_on fun left leftIn right rightIn same =>
    visit_eq_of_node_eq once (visited left leftIn) (visited right rightIn) same

/-! ## What one visit contributes -/

section Contributions

variable [DecidableEq ν] (once : (enteredNodes schema root).Nodup) {visit other : Visit ν}
  (member : visit ∈ (visits schema (.root root)).state)
  (otherMember : other ∈ (visits schema (.root root)).state)

include once member otherMember

/-- A fragment makes a visit contribute a node once if it is the visited node or above it and the
fragment matches at the node's own visit, and not at all otherwise. -/
theorem count_accepted (fragment : Selector) :
    (other.accepted schema fragment).count visit.node =
      if other.isWithin visit.node && visit.passes schema fragment then 1 else 0 := by
  have visited (ancestor : Visit ν)
      (kept : ancestor ∈ other.lineage.filter (Visit.passes schema fragment)) :
      ancestor ∈ (visits schema (.root root)).state :=
    mem_visits_of_mem_lineage otherMember (List.mem_filter.mp kept).1
  have distinct : (other.accepted schema fragment).Nodup :=
    nodup_map_node once ((Visit.nodup_lineageOf _ _).filter _) visited
  have contributed_iff : visit.node ∈ other.accepted schema fragment ↔
      (other.isWithin visit.node && visit.passes schema fragment) = true := by
    rw [Visit.accepted, node_mem_map_iff once member visited, List.mem_filter,
      mem_lineage_iff_isWithin once member otherMember, Bool.and_eq_true]
  -- A list without repetitions counts whether something is in it.
  rw [distinct.count]
  exact if_congr contributed_iff rfl rfl

/-- With marks, a visit at which the selector matches contributes each node of its lineage once for
every fragment that matches at that node's own visit. -/
theorem count_reports_of_fragments {selector : Selector} (marked : selector.subjects ≠ []) :
    (other.reports schema selector).count visit.node =
      if other.isWithin visit.node && other.passes schema selector then
        selector.subjects.countP fun fragment => visit.passes schema fragment
      else 0 := by
  have notEmpty : selector.subjects.isEmpty = false := List.isEmpty_eq_false_iff.mpr marked
  rw [Visit.reports, notEmpty]
  by_cases passed : other.passes schema selector = true
  · rw [if_pos passed, if_neg Bool.false_ne_true]
    have counts (fragment : Selector) (_ : fragment ∈ selector.subjects) :=
      count_accepted once member otherMember fragment
    rw [count_flatMap_of_forall counts, Nat.mul_one]
    by_cases within : other.isWithin visit.node = true
    · simp only [within, passed, Bool.true_and, if_true]
    · simp [within]
  · rw [if_neg passed, List.count_nil, if_neg]
    rw [Bool.and_eq_true]
    exact fun both => passed both.2

end Contributions

theorem enters_of_mem_reports {selector : Selector} {visit : Visit ν} {node : ν}
    (member : visit ∈ (visits schema (.root root)).state)
    (reported : node ∈ visit.reports schema selector) : Enters schema root node := by
  have entered {ancestor : Visit ν} (inLineage : ancestor ∈ visit.lineage) :
      Enters schema root ancestor.node :=
    enters_iff.mpr ⟨ancestor.ancestry, mem_visits_of_mem_lineage member inLineage⟩
  unfold Visit.reports at reported
  split at reported
  · split at reported
    · rw [List.mem_singleton.mp reported]
      exact enters_iff.mpr ⟨visit.ancestry, member⟩
    · obtain ⟨fragment, _, accepted⟩ := List.mem_flatMap.mp reported
      obtain ⟨ancestor, kept, rfl⟩ := List.mem_map.mp accepted
      exact entered (List.mem_filter.mp kept).1
  · cases reported

/-! ## Counting over the visits -/

/-- In a traversal that enters each node at most once, a query without marks reports an entered node
once if its selector matches there, and not at all otherwise. With marks it reports the node as
often as the product says: the number of visits, of the node itself and of those below it, at which
the selector matches, times the number of fragments that match at the node. -/
theorem matchTree_count [DecidableEq ν] (schema : Schema ν) (root : ν) (selector : Selector)
    (accepted : (traversalEvents schema root).refusal? = none)
    (once : (enteredNodes schema root).Nodup) :
    ∃ reported, matchTree schema selector root = .ok reported ∧
      (∀ node ∈ reported, Enters schema root node) ∧
      ∀ visit ∈ (visits schema (.root root)).state,
        (selector.subjects = [] →
          reported.count visit.node = if visit.passes schema selector then 1 else 0) ∧
        (selector.subjects ≠ [] →
          reported.count visit.node =
            ((visits schema (.root root)).state.countP fun other =>
                other.isWithin visit.node && other.passes schema selector) *
              selector.subjects.countP fun fragment => visit.passes schema fragment) := by
  refine ⟨_, matchTree_of_accepted accepted selector, ?_, fun visit member => ⟨?_, ?_⟩⟩
  · intro node reported
    obtain ⟨visit, member, contributed⟩ := List.mem_flatMap.mp reported
    exact enters_of_mem_reports member contributed
  · intro unmarked
    have visited (other : Visit ν)
        (kept : other ∈ (visits schema (.root root)).state.filter (Visit.passes schema selector)) :
        other ∈ (visits schema (.root root)).state :=
      (List.mem_filter.mp kept).1
    have distinct := once
    rw [enteredNodes_eq_map_visits] at distinct
    rw [flatMap_reports_of_subjects_eq_nil unmarked,
      (nodup_map_node once ((List.Nodup.of_map _ distinct).filter _) visited).count]
    refine if_congr ?_ rfl rfl
    rw [node_mem_map_iff once member visited, List.mem_filter]
    exact and_iff_right member
  · intro marked
    exact count_flatMap_of_forall fun other otherMember =>
      count_reports_of_fragments once member otherMember marked

open Classical in
/-- Two marked wildcards match at both nodes, so that the outer node is reported four times. -/
theorem outerNode_counted_four_times :
    (traversalEvents (fun _ => .ok ["b"]) outerNode).refusal? = none ∧
      (enteredNodes (fun _ => .ok ["b"]) outerNode).Nodup ∧
      ⟨outerNode, []⟩ ∈ (visits (fun _ => .ok ["b"]) (.root outerNode)).state ∧
      ∃ reported,
        matchTree (fun _ => .ok ["b"])
          (.group .anyOf [.single .wildcard true, .single .wildcard true] false) outerNode =
          .ok reported ∧
        reported.count outerNode = 4 := by
  have accepted : (traversalEvents (fun _ => .ok ["b"]) outerNode).refusal? = none := by
    rw [(traversal_tracks _ _).refusal, visits_outerNode]
  have once : (enteredNodes (fun _ => .ok ["b"]) outerNode).Nodup := by
    rw [enteredNodes_eq_map_visits, visits_outerNode]
    simp [outerNode, innerNode]
  have member : ⟨outerNode, []⟩ ∈ (visits (fun _ => .ok ["b"]) (.root outerNode)).state := by
    rw [visits_outerNode]
    exact List.mem_cons_self
  obtain ⟨reported, isReport, _, counts⟩ := matchTree_count (fun _ => .ok ["b"]) outerNode
    (.group .anyOf [.single .wildcard true, .single .wildcard true] false) accepted once
  refine ⟨accepted, once, member, reported, isReport, ?_⟩
  have counted := (counts _ member).2 (List.cons_ne_nil _ _)
  rw [visits_outerNode] at counted
  rw [counted]
  simp [Visit.isWithin, Visit.passes, Selector.subjects, Selector.fragments,
    Selector.memberFragments, Selector.own, Selector.test, Selector.testAny, NodeTest.holds]

end SyntaxQuery
