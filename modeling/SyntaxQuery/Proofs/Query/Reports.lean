import SyntaxQuery.Document.Node
import SyntaxQuery.Proofs.Traversal.Visits
import SyntaxQuery.Query.Report

/-!
Contract: the list of nodes that a query reports.

What a visit contributes is defined on the visit alone, with each ancestor tested under the
ancestors it was itself entered with. `matchTree_eq_flatMap_reports` says that a query is the list
of these contributions over the visits of its traversal. The invariant is on the query's state: its
ancestry is the stack that follows the events, and what it has reported is what the visits so far
contribute.

Does not own: when a selector matches.
-/

namespace SyntaxQuery

variable {ν : Type}

/-- The ancestors that a test accepts are those of the parent's lineage that it accepts. -/
theorem acceptedAncestors_cons (test : ν → List ν → Bool) (parent : ν) (above : List ν) :
    acceptedAncestors test (parent :: above) =
      ((Visit.lineageOf parent above).filter fun visit => test visit.node visit.ancestry).map
        Visit.node := by
  induction above generalizing parent with
  | nil => by_cases passed : test parent [] <;> simp [acceptedAncestors, Visit.lineageOf, passed]
  | cons next rest inductionHypothesis =>
      rw [acceptedAncestors, inductionHypothesis, Visit.lineageOf]
      by_cases passed : test parent (next :: rest) <;> simp [passed]

variable [SyntaxNode ν]

/-! ## What a visit contributes -/

namespace Visit

/-- Whether a selector matches a visited node under the ancestors of the visit. -/
def passes (schema : Schema ν) (selector : Selector) (visit : Visit ν) : Bool :=
  selector.test schema visit.node visit.ancestry

/-- The nodes of a lineage that a selector matches: the visited node first, then its ancestors. -/
def accepted (schema : Schema ν) (selector : Selector) (visit : Visit ν) : List ν :=
  (visit.lineage.filter (passes schema selector)).map Visit.node

/-- The nodes that a visit makes a query report: none unless the selector matches, the visited node
if nothing is marked, and otherwise the nodes of the lineage that each fragment matches, fragment by
fragment. -/
def reports (schema : Schema ν) (selector : Selector) (visit : Visit ν) : List ν :=
  if visit.passes schema selector then
    if selector.subjects.isEmpty then [visit.node]
    else selector.subjects.flatMap fun fragment => visit.accepted schema fragment
  else []

end Visit

theorem fragmentReports_eq_accepted (schema : Schema ν) (fragment : Selector) (visit : Visit ν) :
    fragmentReports schema visit.node visit.ancestry fragment = visit.accepted schema fragment := by
  obtain ⟨node, ancestry⟩ := visit
  show _ = ((Visit.lineageOf node ancestry).filter fun visit =>
    fragment.test schema visit.node visit.ancestry).map Visit.node
  cases ancestry with
  | nil =>
      by_cases passed : fragment.test schema node [] <;>
        simp [fragmentReports, acceptedAncestors, Visit.lineageOf, passed]
  | cons parent above =>
      rw [fragmentReports, acceptedAncestors_cons, Visit.lineageOf]
      by_cases passed : fragment.test schema node (parent :: above) <;> simp [passed]

/-- The contribution of a visit, in the words of the query. -/
theorem reports_eq_matchReports (schema : Schema ν) (selector : Selector) (visit : Visit ν) :
    visit.reports schema selector =
      if selector.test schema visit.node visit.ancestry then
        matchReports schema selector.subjects visit.node visit.ancestry
      else [] := by
  unfold Visit.reports Visit.passes matchReports
  cases selector.subjects with
  | nil => rfl
  | cons fragment rest =>
      rw [show fragmentReports schema visit.node visit.ancestry =
        fun fragment => visit.accepted schema fragment from
          funext fun fragment => fragmentReports_eq_accepted schema fragment visit]
      rfl

theorem matchReports_of_ne_nil {schema : Schema ν} {fragments : List Selector}
    (marked : fragments ≠ []) (node : ν) (ancestry : List ν) :
    matchReports schema fragments node ancestry =
      fragments.flatMap (fragmentReports schema node ancestry) := by
  cases fragments with
  | nil => exact absurd rfl marked
  | cons fragment rest => rfl

/-- Visits contribute what the matches among them contribute. -/
theorem flatMap_reports (schema : Schema ν) (selector : Selector) (seen : List (Visit ν)) :
    seen.flatMap (Visit.reports schema selector) =
      (seen.filter (Visit.passes schema selector)).flatMap fun visit =>
        matchReports schema selector.subjects visit.node visit.ancestry := by
  induction seen with
  | nil => rfl
  | cons visit rest inductionHypothesis =>
      rw [List.flatMap_cons, inductionHypothesis, reports_eq_matchReports, List.filter_cons,
        Visit.passes]
      split
      · rw [List.flatMap_cons]
      · rfl

/-- Without fragments, visits contribute the nodes at which the selector matches. -/
theorem flatMap_reports_of_subjects_eq_nil {schema : Schema ν} {selector : Selector}
    (unmarked : selector.subjects = []) (seen : List (Visit ν)) :
    seen.flatMap (Visit.reports schema selector) =
      (seen.filter (Visit.passes schema selector)).map Visit.node := by
  rw [flatMap_reports, unmarked]
  exact List.map_eq_flatMap.symm

/-! ## The state of a query along some events -/

namespace QueryState

/-- The nodes entered by some events, each with the ancestry that the query tests it under. -/
def trace (schema : Schema ν) (selector : Selector) : QueryState ν → List (Event ν) → List (Visit ν)
  | _, [] => []
  | state, .enter node parent? :: rest =>
      let entered := state.visit schema selector selector.subjects (.enter node parent?)
      ⟨node, entered.ancestry.nodes⟩ :: trace schema selector entered rest
  | state, .leave node parent? :: rest =>
      let left := state.visit schema selector selector.subjects (.leave node parent?)
      trace schema selector left rest

variable (schema : Schema ν) (selector : Selector)

/-- The ancestry of a query follows the events, whatever is reported. -/
theorem visit_ancestry (state : QueryState ν) (event : Event ν) :
    (state.visit schema selector selector.subjects event).ancestry =
      state.ancestry.follow event := by
  cases event with
  | enter node parent? => cases parent? <;> simp only [visit] <;> split <;> rfl
  | leave node parent? => rfl

/-- Entering a node reports what its visit contributes. -/
theorem visit_reported_enter (state : QueryState ν) (node : ν) (parent? : Option ν) :
    (state.visit schema selector selector.subjects (.enter node parent?)).reported =
      (Visit.reports schema selector
        ⟨node, (state.ancestry.follow (.enter node parent?)).nodes⟩).reverse ++ state.reported := by
  rw [reports_eq_matchReports]
  cases parent? <;> simp only [visit, AncestryStack.follow] <;> split <;> simp [*]

theorem trace_eq_visitsAlong (state : QueryState ν) (events : List (Event ν)) :
    trace schema selector state events = visitsAlong state.ancestry events := by
  induction events generalizing state with
  | nil => rfl
  | cons event rest inductionHypothesis =>
      cases event with
      | enter node parent? =>
          simp only [trace, visitsAlong, inductionHypothesis, visit_ancestry]
      | leave node parent? =>
          simp only [trace, visitsAlong, inductionHypothesis, visit_ancestry]

/-- After any events a query has reported, last first, what the visits along them contribute. -/
theorem reported_foldl (state : QueryState ν) (events : List (Event ν)) :
    (events.foldl (visit schema selector selector.subjects) state).reported =
      ((visitsAlong state.ancestry events).flatMap (Visit.reports schema selector)).reverse ++
        state.reported := by
  induction events generalizing state with
  | nil => rfl
  | cons event rest inductionHypothesis =>
      rw [List.foldl_cons, inductionHypothesis, visit_ancestry]
      cases event with
      | enter node parent? =>
          rw [visit_reported_enter, visitsAlong, List.flatMap_cons, List.reverse_append,
            List.append_assoc]
      | leave node parent? => rfl

end QueryState

/-! ## The report of a query -/

/-- A query is refused where its traversal is, and otherwise reports what the visits contribute. -/
theorem matchTree_eq_reports_of_visits (schema : Schema ν) (selector : Selector) (root : ν) :
    matchTree schema selector root =
      match (visits schema (.root root)).refusal? with
      | some refusal => .error refusal
      | none =>
          .ok ((visits schema (.root root)).state.flatMap (Visit.reports schema selector)) := by
  have tracks := traversal_tracks schema root
  rw [traversalEvents_eq_walk] at tracks
  have reported := QueryState.reported_foldl schema selector .initial (walk schema root none).state
  rw [show (QueryState.initial : QueryState ν).ancestry = .empty from rfl, tracks.along,
    show (QueryState.initial : QueryState ν).reported = [] from rfl, List.append_nil] at reported
  cases refused : (visits schema (.root root)).refusal? with
  | some refusal => simp only [matchTree, traverse_eq_foldl_walk, tracks.refusal, refused]
  | none =>
      simp only [matchTree, traverse_eq_foldl_walk, tracks.refusal, refused, reported,
        List.reverse_reverse]

theorem matchTree_of_accepted {schema : Schema ν} {root : ν}
    (accepted : (traversalEvents schema root).refusal? = none) (selector : Selector) :
    matchTree schema selector root =
      .ok ((visits schema (.root root)).state.flatMap (Visit.reports schema selector)) := by
  rw [(traversal_tracks schema root).refusal] at accepted
  rw [matchTree_eq_reports_of_visits, accepted]

/-- A query whose traversal is refused gives that refusal. Any other reports, visit by visit in the
order of entering, what the visits contribute. In both cases the query tests each entered node under
the ancestors of its visit, and the ancestors in a visit's lineage were themselves visited so. -/
theorem matchTree_eq_flatMap_reports (schema : Schema ν) (selector : Selector) (root : ν) :
    (matchTree schema selector root =
      match (traversalEvents schema root).refusal? with
      | some refusal => .error refusal
      | none =>
          .ok ((visits schema (.root root)).state.flatMap (Visit.reports schema selector))) ∧
    QueryState.trace schema selector .initial (traversalEvents schema root).state =
      (visits schema (.root root)).state ∧
    ∀ visit ∈ (visits schema (.root root)).state, ∀ ancestor ∈ visit.lineage,
      ancestor ∈ (visits schema (.root root)).state := by
  have tracks := traversal_tracks schema root
  refine ⟨?_, ?_, fun visit member ancestor => mem_visits_of_mem_lineage member⟩
  · rw [matchTree_eq_reports_of_visits, tracks.refusal]
  · rw [QueryState.trace_eq_visitsAlong]
    exact tracks.along

/-- A record with a node under `b`, and that node. -/
def outerNode : DocumentNode :=
  ⟨[], .object [("type", .string "A"), ("b", .object [("type", .string "B")])]⟩

@[inherit_doc outerNode]
def innerNode : DocumentNode :=
  ⟨[.member "b"], .object [("type", .string "B")]⟩

/-- The inner node is the only child of the outer one where `b` is the field for children. -/
theorem visits_outerNode :
    visits (fun _ => .ok ["b"]) (.root outerNode) =
      ⟨[⟨outerNode, []⟩, ⟨innerNode, [outerNode]⟩], none⟩ := by
  have outerChildren : children (fun _ => .ok ["b"]) outerNode = .ok [innerNode] := rfl
  have innerChildren : children (fun _ => .ok ["b"]) innerNode = .ok [] := rfl
  rw [visits_of_children outerChildren]
  simp only [List.map_cons, List.map_nil]
  rw [visits_of_children innerChildren]
  rfl

/-- The inner node is visited below the outer one, which was visited as the root. -/
theorem outerNode_visited_above_innerNode :
    ⟨innerNode, [outerNode]⟩ ∈ (visits (fun _ => .ok ["b"]) (.root outerNode)).state ∧
      .root outerNode ∈ Visit.lineage ⟨innerNode, [outerNode]⟩ ∧
      .root outerNode ∈ (visits (fun _ => .ok ["b"]) (.root outerNode)).state := by
  have outerChildren : children (fun _ => .ok ["b"]) outerNode = .ok [innerNode] := rfl
  have innerChildren : children (fun _ => .ok ["b"]) innerNode = .ok [] := rfl
  have member : ⟨innerNode, [outerNode]⟩ ∈
      (visits (fun _ => .ok ["b"]) (.root outerNode)).state := by
    rw [visits_of_children outerChildren, List.map_cons, visits_of_children innerChildren]
    exact List.mem_cons_of_mem _ List.mem_cons_self
  have above : .root outerNode ∈ Visit.lineage ⟨innerNode, [outerNode]⟩ :=
    List.mem_cons_of_mem _ List.mem_cons_self
  exact ⟨member, above,
    (matchTree_eq_flatMap_reports (fun _ => .ok ["b"]) (.single .wildcard false) outerNode).2.2
      _ member _ above⟩

end SyntaxQuery
