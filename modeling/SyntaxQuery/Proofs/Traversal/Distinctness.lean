import Mathlib.Data.List.Nodup
import SyntaxQuery.Proofs.Traversal.Identity

/-!
Contract: traversals that visit nothing twice.

The visits below different children of a node are different, because the child's own visit stands
in the lineage of each of them at one and the same height. So where no node lists a child twice,
there is no visit twice (`nodup_visits`), and in a tree whose nodes are told apart no node either.

Does not own: which schemas list no child twice.
-/

namespace SyntaxQuery

/-- What joined walks yield is without repetition if each walk is and no two have anything in
common. -/
theorem nodup_joinWalks {α : Type} {walks : List (Outcome (List α))}
    (each : ∀ walk ∈ walks, walk.state.Nodup)
    (apart : walks.Pairwise fun left right => List.Disjoint left.state right.state) :
    (joinWalks walks).state.Nodup := by
  induction walks with
  | nil => exact List.nodup_nil
  | cons first rest inductionHypothesis =>
      obtain ⟨firstOnce, restOnce⟩ := List.forall_mem_cons.mp each
      obtain ⟨firstApart, restApart⟩ := List.pairwise_cons.mp apart
      rw [joinWalks_cons]
      cases refused : first.refusal? with
      | some refusal =>
          rw [Outcome.andThen_of_refused refused]
          exact firstOnce
      | none =>
          rw [Outcome.andThen_of_accepted refused]
          refine List.Nodup.append firstOnce (inductionHypothesis restOnce restApart) ?_
          intro item inFirst inRest
          obtain ⟨walk, isLater, inWalk, _⟩ := exists_of_mem_joinWalks inRest
          exact firstApart walk isLater inFirst inWalk

variable {ν : Type}

/-! ## Heights in a lineage -/

/-- A lineage has one visit with a given number of ancestors. -/
theorem Visit.eq_of_mem_lineageOf {node : ν} {above : List ν} {left right : Visit ν}
    (leftMember : left ∈ lineageOf node above) (rightMember : right ∈ lineageOf node above)
    (sameHeight : left.ancestry.length = right.ancestry.length) : left = right := by
  induction above generalizing node with
  | nil => rw [List.mem_singleton.mp leftMember, List.mem_singleton.mp rightMember]
  | cons parent rest inductionHypothesis =>
      -- Only the first visit of the lineage has all the ancestors.
      have shorter {visit : Visit ν} (higher : visit ∈ lineageOf parent rest) :
          visit.ancestry.length ≠ (parent :: rest).length :=
        Nat.ne_of_lt (Nat.lt_succ_of_le (ancestry_suffix_of_mem_lineageOf higher).length_le)
      rcases List.mem_cons.mp leftMember with rfl | leftHigher <;>
        rcases List.mem_cons.mp rightMember with rfl | rightHigher
      · rfl
      · exact absurd sameHeight.symm (shorter rightHigher)
      · exact absurd sameHeight (shorter leftHigher)
      · exact inductionHypothesis leftHigher rightHigher

variable [SyntaxNode ν] {schema : Schema ν}

/-- Where steps lead from a visit, that visit is in the lineage. -/
theorem Visit.Leads.mem_lineage {start visit : Visit ν} (leads : Leads schema start visit) :
    start ∈ visit.lineage := by
  induction leads with
  | refl => exact mem_lineageOf_self start.node start.ancestry
  | tail _ steps inductionHypothesis =>
      obtain ⟨_, _, child, _, rfl⟩ := steps
      exact List.mem_cons_of_mem _ inductionHypothesis

/-! ## Traversals without repetition -/

/-- The visits below different children of a node have nothing in common. -/
theorem disjoint_visits_child {start : Visit ν} {left right : ν} (differ : left ≠ right) :
    List.Disjoint (visits schema (start.child left)).state
      (visits schema (start.child right)).state := by
  intro visit inLeft inRight
  have sameChild : start.child left = start.child right :=
    Visit.eq_of_mem_lineageOf (leads_of_mem_visits inLeft).mem_lineage
      (leads_of_mem_visits inRight).mem_lineage rfl
  exact differ (congrArg Visit.node sameChild)

/-- A traversal makes no visit twice if the nodes to which its steps lead list no child twice, also
if it is refused. -/
theorem nodup_visits {start : Visit ν}
    (listsOnce : ∀ visit, Visit.Leads schema start visit →
      ∀ kids, children schema visit.node = .ok kids → kids.Nodup) :
    (visits schema start).state.Nodup := by
  obtain ⟨node, above⟩ := start
  induction node using tree_induction schema generalizing above with
  | refused node refusal found =>
      rw [visits_of_refused found]
      exact List.nodup_singleton _
  | accepted node kids found inductionHypothesis =>
      rw [visits_of_children found, Outcome.accepted_andThen]
      refine List.nodup_cons.mpr ⟨fun repeated => ?_, nodup_joinWalks ?_ ?_⟩
      · -- A visit below a child has more ancestors than the visit of the node itself.
        obtain ⟨walk, isBelow, inWalk, _⟩ := exists_of_mem_joinWalks repeated
        obtain ⟨child, _, rfl⟩ := List.mem_map.mp isBelow
        have higher := Visit.ancestry_suffix_of_mem_lineageOf
          (leads_of_mem_visits inWalk).mem_lineage
        exact absurd higher.length_le (Nat.not_succ_le_self above.length)
      · refine List.forall_mem_map.mpr fun child isChild => ?_
        exact inductionHypothesis child isChild (node :: above) fun visit leads =>
          listsOnce visit (.head ⟨kids, found, child, isChild, rfl⟩ leads)
      · exact List.Pairwise.map _ (fun _ _ differ => disjoint_visits_child differ)
          (listsOnce ⟨node, above⟩ .refl kids found)

end SyntaxQuery
