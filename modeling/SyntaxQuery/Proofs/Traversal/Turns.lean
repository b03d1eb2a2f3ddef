import Mathlib.Logic.Function.Iterate
import SyntaxQuery.Proofs.Traversal.Loop

/-!
Contract: a traversal turn by turn against the recursion that it stands for.

A turn takes one entry off a stack and may push others; after as many turns as the tree has events,
and one more, the traversal has ended (`iterate_turn`). The events on the way are those of a
recursion that knows nothing of refusals, up to the first node that the schema refuses
(`walk_eq_upToRefusal`).

Does not own: the laws by which walks are joined.
-/

namespace SyntaxQuery

variable {ν σ : Type}

/-! ## Events up to a refusal -/

/-- Some events up to the first that enters a refused node, which is the last one kept, with the
refusal of that node. -/
def upToRefusal (schema : Schema ν) : List (Event ν) → Outcome (List (Event ν))
  | [] => ⟨[], none⟩
  | .enter node parent? :: rest =>
      match schema node with
      | .error refusal => ⟨[.enter node parent?], some refusal⟩
      | .ok _ =>
          let others := upToRefusal schema rest
          ⟨.enter node parent? :: others.state, others.refusal?⟩
  | .leave node parent? :: rest =>
      let others := upToRefusal schema rest
      ⟨.leave node parent? :: others.state, others.refusal?⟩

variable {schema : Schema ν}

theorem upToRefusal_enter_refused {node : ν} {refusal : UnknownNodeType}
    (refused : schema node = .error refusal) (parent? : Option ν) (rest : List (Event ν)) :
    upToRefusal schema (.enter node parent? :: rest) =
      ⟨[.enter node parent?], some refusal⟩ := by
  simp only [upToRefusal, refused]

theorem upToRefusal_enter_accepted {node : ν} {fields : List String}
    (accepted : schema node = .ok fields) (parent? : Option ν) (rest : List (Event ν)) :
    upToRefusal schema (.enter node parent? :: rest) =
      Outcome.andThen ⟨[.enter node parent?], none⟩ (upToRefusal schema rest) := by
  simp only [upToRefusal, accepted]
  rfl

theorem upToRefusal_append (before after : List (Event ν)) :
    upToRefusal schema (before ++ after) =
      (upToRefusal schema before).andThen (upToRefusal schema after) := by
  induction before with
  | nil => rfl
  | cons event rest inductionHypothesis =>
      cases event with
      | enter node parent? =>
          rw [List.cons_append]
          cases found : schema node with
          | error refusal =>
              rw [upToRefusal_enter_refused found, upToRefusal_enter_refused found,
                Outcome.andThen_of_refused rfl]
          | ok fields =>
              rw [upToRefusal_enter_accepted found, upToRefusal_enter_accepted found,
                inductionHypothesis, Outcome.andThen_assoc]
      | leave node parent? =>
          show Outcome.andThen ⟨[.leave node parent?], none⟩ (upToRefusal schema (rest ++ after)) =
            (Outcome.andThen ⟨[.leave node parent?], none⟩ (upToRefusal schema rest)).andThen _
          rw [inductionHypothesis, Outcome.andThen_assoc]

/-- Several stretches of events, of which the first with a refused node is the last that takes
place. -/
theorem upToRefusal_flatMap (eventsOf : ν → List (Event ν)) (kids : List ν) :
    upToRefusal schema (kids.flatMap eventsOf) =
      joinWalks (kids.map fun child => upToRefusal schema (eventsOf child)) := by
  induction kids with
  | nil => rfl
  | cons child rest inductionHypothesis =>
      rw [List.flatMap_cons, upToRefusal_append, inductionHypothesis, List.map_cons, joinWalks_cons]

/-! ## Turns -/

/-- Pushes the entries for the children of a node, the last child first, so that the first child
comes to be on top. -/
def pushChildren (parent : ν) (kids : List ν) (stack : List (Event ν)) : List (Event ν) :=
  kids.reverse.foldl (fun stack child => .enter child (some parent) :: stack) stack

theorem pushChildren_eq (parent : ν) (kids : List ν) (stack : List (Event ν)) :
    pushChildren parent kids stack = enterAll parent kids ++ stack := by
  unfold pushChildren enterAll
  rw [List.foldl_reverse]
  induction kids with
  | nil => rfl
  | cons child rest inductionHypothesis =>
      rw [List.foldr_cons, inductionHypothesis, List.map_cons, List.cons_append]

variable [SyntaxNode ν]

/-- A traversal between two turns: the stack of entries to work off, its top first, with the state
of the visitor, or what the traversal ended with. -/
inductive Stage (ν σ : Type) where
  | working (stack : List (Event ν)) (state : σ)
  | ended (outcome : Outcome σ)

/-- One turn. The entry on top is taken off and visited; for a node that is entered, its leaving and
then its children are pushed, unless the schema refuses it. -/
def Stage.turn (schema : Schema ν) (visit : σ → Event ν → σ) : Stage ν σ → Stage ν σ
  | .working [] state => .ended ⟨state, none⟩
  | .working (.enter node parent? :: rest) state =>
      let entered := visit state (.enter node parent?)
      match children schema node with
      | .error refusal => .ended ⟨entered, some refusal⟩
      | .ok kids => .working (pushChildren node kids (.leave node parent? :: rest)) entered
  | .working (.leave node parent? :: rest) state =>
      .working rest (visit state (.leave node parent?))
  | .ended outcome => .ended outcome

/-- The entries of a stack stand for some number of events; with one turn for each of them and one
to find the stack empty, the traversal has ended. A refusal only ends it sooner. -/
theorem iterate_turn (schema : Schema ν) (visit : σ → Event ν → σ) (stack : List (Event ν))
    (state : σ) :
    (Stage.turn schema visit)^[pending schema stack + 1] (.working stack state) =
      .ended (traverseAgenda schema visit stack state) := by
  induction stack, state using traverseAgenda.induct schema visit with
  | case1 state =>
      rw [traverseAgenda]
      rfl
  | case2 node parent? rest state refusal found =>
      have refused : Stage.turn schema visit (.working (.enter node parent? :: rest) state) =
          .ended ⟨visit state (.enter node parent?), some refusal⟩ := by
        simp only [Stage.turn, found]
      -- The turns that are left over change nothing any more.
      rw [Function.iterate_succ_apply, refused, Function.iterate_fixed rfl,
        traverseAgenda_enter_refused found]
  | case3 node parent? rest state entered kids found inductionHypothesis =>
      have turned : Stage.turn schema visit (.working (.enter node parent? :: rest) state) =
          .working (enterAll node kids ++ .leave node parent? :: rest) entered := by
        simp only [Stage.turn, found, pushChildren_eq]
        rfl
      rw [Function.iterate_succ_apply, turned, ← pending_enterAll parent? rest found,
        inductionHypothesis, traverseAgenda_enter_accepted found]
  | case4 node parent? rest state inductionHypothesis =>
      have counted : pending schema (.leave node parent? :: rest) = pending schema rest + 1 := by
        rw [pending_cons, Event.pending, Nat.add_comm]
      rw [counted, Function.iterate_succ_apply, traverseAgenda]
      exact inductionHypothesis

/-! ## The recursion without refusals -/

/-- The children of a node; a refused node counts as having none. -/
def acceptedChildren (schema : Schema ν) (node : ν) : List ν :=
  match children schema node with
  | .error _ => []
  | .ok kids => kids

theorem size_lt_of_mem_acceptedChildren {schema : Schema ν} {node child : ν}
    (member : child ∈ acceptedChildren schema node) :
    SyntaxNode.size child < SyntaxNode.size node := by
  unfold acceptedChildren at member
  split at member
  · cases member
  · next kids found => exact size_lt_of_mem_children found member

/-- The events of the whole tree below a node: enter it, walk its children in turn, leave it. -/
def fullWalk (schema : Schema ν) (node : ν) (parent? : Option ν) : List (Event ν) :=
  .enter node parent? ::
    ((acceptedChildren schema node).attach.flatMap fun child =>
      fullWalk schema child.val (some node)) ++
    [.leave node parent?]
termination_by SyntaxNode.size node
decreasing_by exact size_lt_of_mem_acceptedChildren child.property

theorem fullWalk_eq (schema : Schema ν) (node : ν) (parent? : Option ν) :
    fullWalk schema node parent? =
      .enter node parent? ::
        (acceptedChildren schema node).flatMap (fun child => fullWalk schema child (some node)) ++
        [.leave node parent?] := by
  have unattached : ((acceptedChildren schema node).attach.map fun child =>
      fullWalk schema child.val (some node)) =
      (acceptedChildren schema node).map fun child => fullWalk schema child (some node) :=
    List.attach_map_val (f := fun child => fullWalk schema child (some node))
  rw [fullWalk, List.flatMap_def, unattached, ← List.flatMap_def]

/-- The walk is the recursion without refusals, up to the first refused node. -/
theorem walk_eq_upToRefusal (schema : Schema ν) (node : ν) (parent? : Option ν) :
    walk schema node parent? = upToRefusal schema (fullWalk schema node parent?) := by
  induction node using tree_induction schema generalizing parent? with
  | refused node refusal found =>
      rw [walk_of_refused found, fullWalk_eq, List.cons_append,
        upToRefusal_enter_refused (children_eq_error_iff.mp found)]
  | accepted node kids found inductionHypothesis =>
      obtain ⟨fields, accepted, _⟩ := children_eq_ok_iff.mp found
      have below : acceptedChildren schema node = kids := by
        simp only [acceptedChildren, found]
      have walks : (kids.map fun child => walk schema child (some node)) =
          kids.map fun child => upToRefusal schema (fullWalk schema child (some node)) :=
        List.map_congr_left fun child member => inductionHypothesis child member (some node)
      rw [walk_of_children found, fullWalk_eq, below, List.cons_append,
        upToRefusal_enter_accepted accepted, upToRefusal_append, upToRefusal_flatMap, walks]
      rfl

/-! ## Traversals -/

/-- The loop ends, after one turn more than the tree has events. Its events are those of the
recursion up to the first refused node, whose refusal it gives, and a visitor sees exactly these
events in their order. -/
theorem traversal_follows_fullWalk (schema : Schema ν) (visit : σ → Event ν → σ) (root : ν)
    (state : σ) :
    (Stage.turn schema visit)^[eventCount schema root + 1] (.working [.enter root none] state) =
        .ended (traverse schema visit root state) ∧
      traversalEvents schema root = upToRefusal schema (fullWalk schema root none) ∧
      traverse schema visit root state =
        ⟨(traversalEvents schema root).state.foldl visit state,
          (traversalEvents schema root).refusal?⟩ := by
  refine ⟨?_, ?_, ?_⟩
  · exact iterate_turn schema visit [.enter root none] state
  · rw [traversalEvents_eq_walk, walk_eq_upToRefusal]
  · rw [traversalEvents_eq_walk, traverse_eq_foldl_walk]

end SyntaxQuery
