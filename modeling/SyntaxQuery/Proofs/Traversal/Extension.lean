import SyntaxQuery.Proofs.Traversal.Identity

/-!
Contract: traversals with a schema and with one that refuses less.

If one schema refuses less than another, and names the same fields where both accept, then its
traversal goes the same way as long as the other is not refused (`traversalEvents_begins`). And a
traversal only goes on below nodes that its schema accepts.

Does not own: what the fields hold.
-/

namespace SyntaxQuery

/-! ## Walks that begin others -/

section Joining

variable {α : Type}

/-- What the first walk yields comes first in the second, which is no different if the first is not
refused. -/
structure Outcome.Begins (first second : Outcome (List α)) : Prop where
  isPrefix : first.state <+: second.state
  eq_of_accepted : first.refusal? = none → second = first

theorem Outcome.Begins.refl (outcome : Outcome (List α)) : outcome.Begins outcome :=
  ⟨List.prefix_rfl, fun _ => rfl⟩

theorem Outcome.Begins.andThen {left otherLeft right otherRight : Outcome (List α)}
    (leftBegins : left.Begins otherLeft) (rightBegins : right.Begins otherRight) :
    (left.andThen right).Begins (otherLeft.andThen otherRight) := by
  cases refused : left.refusal? with
  | some refusal =>
      rw [Outcome.andThen_of_refused refused]
      refine ⟨leftBegins.isPrefix.trans (Outcome.prefix_andThen _ _), fun accepted => ?_⟩
      rw [refused] at accepted
      cases accepted
  | none =>
      rw [leftBegins.eq_of_accepted refused, Outcome.andThen_of_accepted refused,
        Outcome.andThen_of_accepted refused]
      refine ⟨(List.prefix_append_right_inj _).mpr rightBegins.isPrefix, fun accepted => ?_⟩
      rw [rightBegins.eq_of_accepted accepted]

theorem Outcome.Begins.joinWalks {κ : Type} {kids : List κ}
    {walkOf otherOf : κ → Outcome (List α)}
    (each : ∀ child ∈ kids, (walkOf child).Begins (otherOf child)) :
    (SyntaxQuery.joinWalks (kids.map walkOf)).Begins
      (SyntaxQuery.joinWalks (kids.map otherOf)) := by
  induction kids with
  | nil => exact .refl _
  | cons child rest inductionHypothesis =>
      obtain ⟨first, later⟩ := List.forall_mem_cons.mp each
      rw [List.map_cons, List.map_cons, joinWalks_cons, joinWalks_cons]
      exact first.andThen (inductionHypothesis later)

end Joining

variable {ν : Type} [SyntaxNode ν] {schema other : Schema ν}

/-! ## Schemas that refuse less -/

/-- The other schema accepts every node that the schema accepts, with the same fields. -/
def IsExtendedBy (schema other : Schema ν) : Prop :=
  ∀ node fields, schema node = .ok fields → other node = .ok fields

theorem IsExtendedBy.children (extended : IsExtendedBy schema other) {node : ν} {kids : List ν}
    (found : children schema node = .ok kids) : SyntaxQuery.children other node = .ok kids := by
  obtain ⟨fields, accepted, held⟩ := children_eq_ok_iff.mp found
  exact children_eq_ok_iff.mpr ⟨fields, extended node fields accepted, held⟩

theorem walk_begins (extended : IsExtendedBy schema other) (node : ν) (parent? : Option ν) :
    (walk schema node parent?).Begins (walk other node parent?) := by
  induction node using tree_induction schema generalizing parent? with
  | refused node refusal found =>
      rw [walk_of_refused found]
      refine ⟨?_, fun accepted => by cases accepted⟩
      -- Whatever the other schema says, its walk enters the node first.
      cases otherFound : children other node with
      | error otherRefusal =>
          rewrite [walk_of_refused otherFound]
          exact List.prefix_rfl
      | ok kids =>
          rw [walk_of_children otherFound, Outcome.accepted_andThen]
          exact List.prefix_append [_] _
  | accepted node kids found inductionHypothesis =>
      rw [walk_of_children found, walk_of_children (extended.children found)]
      have below := Outcome.Begins.joinWalks fun child isChild =>
        inductionHypothesis child isChild (some node)
      exact (Outcome.Begins.refl _).andThen (below.andThen (.refl _))

/-- The traversal with a schema that refuses less goes the same way as long as the traversal with
the other is not refused. -/
theorem traversalEvents_begins (extended : IsExtendedBy schema other) (root : ν) :
    (traversalEvents schema root).Begins (traversalEvents other root) := by
  rw [traversalEvents_eq_walk, traversalEvents_eq_walk]
  exact walk_begins extended root none

/-! ## Accepted nodes -/

/-- Steps only lead on below accepted nodes. -/
theorem Visit.Leads.exists_fields {start visit : Visit ν} (leads : Leads schema start visit)
    {parent : ν} (isAbove : parent ∈ visit.ancestry) :
    parent ∈ start.ancestry ∨ ∃ fields, schema parent = .ok fields := by
  induction leads with
  | refl => exact .inl isAbove
  | tail _ steps inductionHypothesis =>
      obtain ⟨kids, found, child, _, rfl⟩ := steps
      rcases List.mem_cons.mp isAbove with rfl | higher
      · obtain ⟨fields, accepted, _⟩ := children_eq_ok_iff.mp found
        exact .inr ⟨fields, accepted⟩
      · exact inductionHypothesis higher

/-- The ancestors of a visit are accepted, also if the traversal is refused later. -/
theorem exists_fields_of_mem_ancestry {root : ν} {visit : Visit ν}
    (member : visit ∈ (visits schema (.root root)).state) {parent : ν}
    (isAbove : parent ∈ visit.ancestry) : ∃ fields, schema parent = .ok fields :=
  ((leads_of_mem_visits member).exists_fields isAbove).resolve_left List.not_mem_nil

/-- The visits below a visit of a traversal that is not refused are not refused either, and stand in
the traversal as a stretch of their own. -/
theorem visits_infix {start visit : Visit ν} (accepted : (visits schema start).refusal? = none)
    (member : visit ∈ (visits schema start).state) :
    (visits schema visit).refusal? = none ∧
      (visits schema visit).state <:+: (visits schema start).state := by
  obtain ⟨node, above⟩ := start
  induction node using tree_induction schema generalizing above with
  | refused node refusal found =>
      rw [visits_of_refused found] at accepted
      cases accepted
  | accepted node kids found inductionHypothesis =>
      have whole : visits schema ⟨node, above⟩ = _ := visits_of_children found
      rw [Outcome.accepted_andThen] at whole
      rw [whole] at accepted member ⊢
      obtain ⟨eachAccepted, joined⟩ := of_joinWalks_accepted accepted
      rcases List.mem_cons.mp member with rfl | inBelow
      · rw [whole]
        exact ⟨accepted, List.infix_rfl⟩
      · rw [joined, List.flatMap_map] at inBelow ⊢
        obtain ⟨child, isChild, inChild⟩ := List.mem_flatMap.mp inBelow
        obtain ⟨belowAccepted, within⟩ := inductionHypothesis child isChild (node :: above)
          (eachAccepted _ (List.mem_map_of_mem isChild)) inChild
        refine ⟨belowAccepted, within.trans ?_⟩
        have inJoined : (visits schema (Visit.child ⟨node, above⟩ child)).state <:+:
            kids.flatMap fun other => (visits schema (Visit.child ⟨node, above⟩ other)).state :=
          List.infix_of_mem_flatten (List.mem_map_of_mem isChild)
        exact inJoined.trans (List.suffix_cons _ _).isInfix

/-- A traversal that is not refused enters accepted nodes only. -/
theorem exists_fields_of_accepted {root : ν}
    (accepted : (traversalEvents schema root).refusal? = none) {node : ν}
    (entered : Enters schema root node) : ∃ fields, schema node = .ok fields := by
  rw [(traversal_tracks schema root).refusal] at accepted
  obtain ⟨above, member⟩ := enters_iff.mp entered
  obtain ⟨belowAccepted, _⟩ := visits_infix accepted member
  cases found : children schema node with
  | error refusal =>
      rw [visits_of_refused found] at belowAccepted
      cases belowAccepted
  | ok kids =>
      obtain ⟨fields, isAccepted, _⟩ := children_eq_ok_iff.mp found
      exact ⟨fields, isAccepted⟩

end SyntaxQuery
