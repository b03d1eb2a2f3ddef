import Mathlib.Logic.Relation
import SyntaxQuery.Proofs.Traversal.Loop
import SyntaxQuery.Tree.Ancestry

/-!
Contract: the nodes that a traversal enters, each with its ancestors.

The visits below a node are defined by recursion on the tree, where a child's ancestors are its
parent and the parent's own ancestors. Two statements tie them to the traversal: a stack that is
pushed on entering and popped on leaving holds exactly these ancestors whenever a node is entered
(`walk_tracks`), and in a traversal that is not refused the visits are what steps to children reach
from the root (`mem_visits_iff`).

Does not own: what is tested or reported at a visit.
-/

namespace SyntaxQuery

/-- A node that a traversal enters, with its ancestors, the parent first and the root last. -/
structure Visit (ν : Type) where
  node : ν
  ancestry : List ν

namespace Visit

variable {ν : Type}

def root (node : ν) : Visit ν := ⟨node, []⟩

def child (visit : Visit ν) (node : ν) : Visit ν := ⟨node, visit.node :: visit.ancestry⟩

/-- The visits of a node and of its ancestors, given the list of the ancestors: the node's own, then
the parent's, and so on up to the root's. -/
def lineageOf : ν → List ν → List (Visit ν)
  | node, [] => [⟨node, []⟩]
  | node, parent :: above => ⟨node, parent :: above⟩ :: lineageOf parent above

/-- The visit itself and those of the node's ancestors, nearest first. -/
def lineage (visit : Visit ν) : List (Visit ν) :=
  lineageOf visit.node visit.ancestry

@[simp] theorem lineage_root (node : ν) : (root node).lineage = [root node] := rfl

/-- A child's lineage is its own visit and the lineage of its parent. -/
@[simp] theorem lineage_child (visit : Visit ν) (node : ν) :
    (visit.child node).lineage = visit.child node :: visit.lineage := rfl

end Visit

variable {ν : Type}

/-! ## The ancestry stack along some events -/

/-- The effect of an event on the ancestors: a parent joins them when its child is entered, and the
nearest of them goes when a node is left. -/
def AncestryStack.follow (stack : AncestryStack ν) : Event ν → AncestryStack ν
  | .enter _ (some parent) => stack.push parent
  | .enter _ none => stack
  | .leave _ _ => stack.pop.2

/-- The nodes entered by some events, each with the ancestors that the stack holds then. -/
def visitsAlong : AncestryStack ν → List (Event ν) → List (Visit ν)
  | _, [] => []
  | stack, .enter node parent? :: rest =>
      let entered := stack.follow (.enter node parent?)
      ⟨node, entered.nodes⟩ :: visitsAlong entered rest
  | stack, .leave node parent? :: rest => visitsAlong (stack.follow (.leave node parent?)) rest

theorem visitsAlong_append (stack : AncestryStack ν) (before after : List (Event ν)) :
    visitsAlong stack (before ++ after) =
      visitsAlong stack before ++ visitsAlong (before.foldl AncestryStack.follow stack) after := by
  induction before generalizing stack with
  | nil => rfl
  | cons event rest inductionHypothesis =>
      cases event with
      | enter node parent? =>
          simp only [List.cons_append, visitsAlong, inductionHypothesis, List.foldl_cons]
      | leave node parent? =>
          simp only [List.cons_append, visitsAlong, inductionHypothesis, List.foldl_cons]

/-- The node that an event enters, with its parent. -/
def Event.entry? : Event ν → Option (ν × Option ν)
  | .enter node parent? => some (node, parent?)
  | .leave _ _ => none

/-- The visited node with its parent, the first of its ancestors. -/
def Visit.entry (visit : Visit ν) : ν × Option ν :=
  (visit.node, visit.ancestry.head?)

/-- Events and visits fit together: the stack sees the visits along the events, which name the same
parents; both are refused alike; and after events that are not refused the stack is as before. -/
structure Tracks (stack : AncestryStack ν) (events : Outcome (List (Event ν)))
    (seen : Outcome (List (Visit ν))) : Prop where
  along : visitsAlong stack events.state = seen.state
  entries : events.state.filterMap Event.entry? = seen.state.map Visit.entry
  refusal : events.refusal? = seen.refusal?
  restored : events.refusal? = none → events.state.foldl AncestryStack.follow stack = stack

theorem Tracks.andThen {stack : AncestryStack ν} {first second : Outcome (List (Event ν))}
    {firstSeen secondSeen : Outcome (List (Visit ν))} (firstTracks : Tracks stack first firstSeen)
    (secondTracks : Tracks stack second secondSeen) :
    Tracks stack (first.andThen second) (firstSeen.andThen secondSeen) := by
  cases refused : first.refusal? with
  | some refusal =>
      have seenRefused : firstSeen.refusal? = some refusal := by
        rw [← firstTracks.refusal, refused]
      rw [Outcome.andThen_of_refused refused, Outcome.andThen_of_refused seenRefused]
      exact firstTracks
  | none =>
      have seenAccepted : firstSeen.refusal? = none := by rw [← firstTracks.refusal, refused]
      have restored := firstTracks.restored refused
      rw [Outcome.andThen_of_accepted refused, Outcome.andThen_of_accepted seenAccepted]
      constructor
      · rw [visitsAlong_append, restored, firstTracks.along, secondTracks.along]
      · rw [List.filterMap_append, List.map_append, firstTracks.entries, secondTracks.entries]
      · exact secondTracks.refusal
      · intro accepted
        rw [List.foldl_append, restored]
        exact secondTracks.restored accepted

theorem Tracks.joinWalks {stack : AncestryStack ν} {kids : List ν}
    {walkOf : ν → Outcome (List (Event ν))} {seenOf : ν → Outcome (List (Visit ν))}
    (each : ∀ child ∈ kids, Tracks stack (walkOf child) (seenOf child)) :
    Tracks stack (SyntaxQuery.joinWalks (kids.map walkOf))
      (SyntaxQuery.joinWalks (kids.map seenOf)) := by
  induction kids with
  | nil => exact ⟨rfl, rfl, rfl, fun _ => rfl⟩
  | cons child rest inductionHypothesis =>
      rw [List.map_cons, List.map_cons, joinWalks_cons, joinWalks_cons]
      exact (each child List.mem_cons_self).andThen
        (inductionHypothesis fun other member => each other (List.mem_cons_of_mem child member))

variable [SyntaxNode ν]

/-! ## Visits by recursion on the tree -/

/-- The visits of a traversal below a visited node, in the order of entering. A refusal ends them
with the refused node. -/
def visits (schema : Schema ν) (visit : Visit ν) : Outcome (List (Visit ν)) :=
  match _found : children schema visit.node with
  | .error refusal => ⟨[visit], some refusal⟩
  | .ok kids =>
      let below := joinWalks (kids.attach.map fun child => visits schema (visit.child child.val))
      ⟨visit :: below.state, below.refusal?⟩
termination_by SyntaxNode.size visit.node
decreasing_by exact size_lt_of_mem_children _found child.property

theorem visits_of_refused {schema : Schema ν} {visit : Visit ν} {refusal : UnknownNodeType}
    (found : children schema visit.node = .error refusal) :
    visits schema visit = ⟨[visit], some refusal⟩ := by
  rw [visits]
  split
  · next other => rw [found] at other; cases other; rfl
  · next other => rw [found] at other; cases other

theorem visits_of_children {schema : Schema ν} {visit : Visit ν} {kids : List ν}
    (found : children schema visit.node = .ok kids) :
    visits schema visit =
      Outcome.andThen ⟨[visit], none⟩
        (joinWalks (kids.map fun child => visits schema (visit.child child))) := by
  rw [visits]
  split
  · next other => rw [found] at other; cases other
  · next other =>
      rw [found] at other
      cases other
      have unattached : (kids.attach.map fun child => visits schema (visit.child child.val)) =
          kids.map fun child => visits schema (visit.child child) :=
        List.attach_map_val (f := fun child => visits schema (visit.child child))
      rw [unattached]
      rfl

/-- A node whose children have no children themselves is visited with its children, in turn. -/
theorem visits_of_leaves {schema : Schema ν} {visit : Visit ν} (kids : List ν)
    (found : children schema visit.node = .ok kids)
    (leaves : ∀ child ∈ kids, children schema child = .ok []) :
    visits schema visit = ⟨visit :: kids.map visit.child, none⟩ := by
  have below : joinWalks (kids.map fun child => visits schema (visit.child child)) =
      ⟨kids.map visit.child, none⟩ := by
    clear found
    induction kids with
    | nil => rfl
    | cons child rest inductionHypothesis =>
        obtain ⟨leaf, others⟩ := List.forall_mem_cons.mp leaves
        have noKids : children schema (visit.child child).node = .ok [] := leaf
        rw [List.map_cons, joinWalks_cons, inductionHypothesis others, visits_of_children noKids]
        rfl
  rw [visits_of_children found, below]
  rfl

/-- The first visit is that of the node where the traversal starts. -/
theorem mem_visits_self (schema : Schema ν) (visit : Visit ν) :
    visit ∈ (visits schema visit).state := by
  cases found : children schema visit.node with
  | error refusal => rw [visits_of_refused found]; exact List.mem_cons_self
  | ok kids =>
      rw [visits_of_children found, Outcome.accepted_andThen]
      exact List.mem_cons_self

/-- The ancestors of a visit were visited themselves, with the ancestors that the visit's lineage
gives them, or belong to the lineage of the visit where the traversal starts. -/
theorem mem_visits_or_mem_lineage {schema : Schema ν} {start visit ancestor : Visit ν}
    (member : visit ∈ (visits schema start).state) (above : ancestor ∈ visit.lineage) :
    ancestor ∈ (visits schema start).state ∨ ancestor ∈ start.lineage := by
  obtain ⟨node, ancestry⟩ := start
  induction node using tree_induction schema generalizing ancestry with
  | refused node refusal found =>
      rw [visits_of_refused found] at member
      rw [List.mem_singleton.mp member] at above
      exact .inr above
  | accepted node kids found inductionHypothesis =>
      rw [visits_of_children found, Outcome.accepted_andThen] at member ⊢
      rcases List.mem_cons.mp member with same | below
      · rw [same] at above
        exact .inr above
      · obtain ⟨walk, isBelow, inWalk, within⟩ := exists_of_mem_joinWalks below
        obtain ⟨child, isChild, rfl⟩ := List.mem_map.mp isBelow
        rcases inductionHypothesis child isChild (node :: ancestry) inWalk with inside | higher
        · exact .inl (List.mem_cons_of_mem _ (within inside))
        · rcases List.mem_cons.mp higher with same | outside
          · rw [same]
            exact .inl (List.mem_cons_of_mem _ (within (mem_visits_self schema _)))
          · exact .inr outside

/-- In a traversal from a root, the ancestors of a visit were visited with the ancestors that its
lineage gives them. -/
theorem mem_visits_of_mem_lineage {schema : Schema ν} {root : ν} {visit ancestor : Visit ν}
    (member : visit ∈ (visits schema (.root root)).state) (above : ancestor ∈ visit.lineage) :
    ancestor ∈ (visits schema (.root root)).state := by
  rcases mem_visits_or_mem_lineage member above with inside | atRoot
  · exact inside
  · rw [Visit.lineage_root, List.mem_singleton] at atRoot
    rw [atRoot]
    exact mem_visits_self schema (.root root)

/-! ## The ancestry stack along a walk -/

/-- Whenever a walk enters a node, the stack holds the node's ancestors. The stack may be any on
which the parent comes first and that leaving the node turns back into itself: for a child it is
restored by taking the parent off, and for a root it is empty. -/
theorem walk_tracks (schema : Schema ν) (node : ν) (stack : AncestryStack ν) (parent? : Option ν)
    (parentFirst : (stack.follow (.enter node parent?)).nodes.head? = parent?)
    (balanced : (stack.follow (.enter node parent?)).pop.2 = stack) :
    Tracks stack (walk schema node parent?)
      (visits schema ⟨node, (stack.follow (.enter node parent?)).nodes⟩) := by
  induction node using tree_induction schema generalizing stack parent? with
  | refused node refusal found =>
      rw [walk_of_refused found, visits_of_refused found]
      refine ⟨rfl, ?_, rfl, fun accepted => by cases accepted⟩
      simp only [List.filterMap_cons, List.filterMap_nil, List.map_cons, List.map_nil,
        Event.entry?, Visit.entry, parentFirst]
  | accepted node kids found inductionHypothesis =>
      let entered := stack.follow (.enter node parent?)
      have below : Tracks entered
          (SyntaxQuery.joinWalks (kids.map fun child => walk schema child (some node)))
          (SyntaxQuery.joinWalks
            (kids.map fun child => visits schema (Visit.child ⟨node, entered.nodes⟩ child))) :=
        Tracks.joinWalks fun child member =>
          inductionHypothesis child member entered (some node) rfl rfl
      have entry : (node, parent?) = Visit.entry ⟨node, entered.nodes⟩ :=
        congrArg (node, ·) parentFirst.symm
      rw [walk_of_children found, visits_of_children found, Outcome.accepted_andThen,
        Outcome.accepted_andThen]
      cases refused : (SyntaxQuery.joinWalks
          (kids.map fun child => walk schema child (some node))).refusal? with
      | some refusal =>
          -- The refusal ends the walk before the node is left, so nothing is restored.
          rw [Outcome.andThen_of_refused refused]
          refine ⟨?_, ?_, below.refusal, fun accepted => ?_⟩
          · exact congrArg (_ :: ·) below.along
          · exact congrArg₂ List.cons entry below.entries
          · rw [refused] at accepted
            cases accepted
      | none =>
          rw [Outcome.andThen_of_accepted refused]
          have restored := below.restored refused
          refine ⟨?_, ?_, by rw [← below.refusal, refused], fun _ => ?_⟩
          · show _ :: visitsAlong entered (_ ++ [Event.leave node parent?]) = _ :: _
            rw [visitsAlong_append, below.along]
            simp only [visitsAlong, List.append_nil]
            rfl
          · refine congrArg₂ List.cons entry ?_
            show (_ ++ [Event.leave node parent?]).filterMap Event.entry? = _
            rw [List.filterMap_append, below.entries]
            exact List.append_nil _
          · show (_ ++ [Event.leave node parent?]).foldl AncestryStack.follow entered = stack
            rw [List.foldl_append, restored]
            exact balanced

/-- Along a whole traversal the stack starts out empty and sees the visits below the root. -/
theorem traversal_tracks (schema : Schema ν) (root : ν) :
    Tracks .empty (traversalEvents schema root) (visits schema (Visit.root root)) := by
  rw [traversalEvents_eq_walk]
  exact walk_tracks schema root .empty none rfl rfl

/-! ## Entered nodes and their parents -/

/-- A traversal from the root enters the node. -/
def Enters (schema : Schema ν) (root node : ν) : Prop :=
  ∃ parent?, .enter node parent? ∈ (traversalEvents schema root).state

/-- A traversal from the root enters the node from the parent. -/
def IsParent (schema : Schema ν) (root parent node : ν) : Prop :=
  .enter node (some parent) ∈ (traversalEvents schema root).state

/-- The nodes that a traversal enters, in the order of entering. -/
def enteredNodes (schema : Schema ν) (root : ν) : List ν :=
  (traversalEvents schema root).state.filterMap Event.entered?

theorem enteredNodes_eq_map_visits (schema : Schema ν) (root : ν) :
    enteredNodes schema root = (visits schema (.root root)).state.map Visit.node := by
  have entered : (Event.entered? : Event ν → Option ν) = fun event => event.entry?.map Prod.fst :=
    funext fun event => by cases event <;> rfl
  unfold enteredNodes
  rw [entered, ← List.map_filterMap, (traversal_tracks schema root).entries, List.map_map]
  rfl

theorem mem_events_iff (schema : Schema ν) (root node : ν) (parent? : Option ν) :
    .enter node parent? ∈ (traversalEvents schema root).state ↔
      ∃ ancestry, ancestry.head? = parent? ∧
        ⟨node, ancestry⟩ ∈ (visits schema (.root root)).state := by
  have entry : .enter node parent? ∈ (traversalEvents schema root).state ↔
      (node, parent?) ∈ (traversalEvents schema root).state.filterMap Event.entry? := by
    rw [List.mem_filterMap]
    constructor
    · exact fun member => ⟨_, member, rfl⟩
    · intro kept
      obtain ⟨event, member, found⟩ := kept
      cases event with
      | enter other otherParent? => cases found; exact member
      | leave other otherParent? => cases found
  rw [entry, (traversal_tracks schema root).entries, List.mem_map]
  constructor
  · intro kept
    obtain ⟨⟨other, ancestry⟩, member, found⟩ := kept
    cases found
    exact ⟨ancestry, rfl, member⟩
  · intro visited
    obtain ⟨ancestry, rfl, member⟩ := visited
    exact ⟨_, member, rfl⟩

theorem enters_iff {schema : Schema ν} {root node : ν} :
    Enters schema root node ↔
      ∃ ancestry, ⟨node, ancestry⟩ ∈ (visits schema (.root root)).state := by
  unfold Enters
  simp only [mem_events_iff]
  constructor
  · intro entered
    obtain ⟨_, ancestry, _, member⟩ := entered
    exact ⟨ancestry, member⟩
  · intro visited
    obtain ⟨ancestry, member⟩ := visited
    exact ⟨_, ancestry, rfl, member⟩

theorem isParent_iff {schema : Schema ν} {root parent node : ν} :
    IsParent schema root parent node ↔
      ∃ above, ⟨node, parent :: above⟩ ∈ (visits schema (.root root)).state := by
  unfold IsParent
  rw [mem_events_iff]
  constructor
  · intro visited
    obtain ⟨ancestry, first, member⟩ := visited
    obtain ⟨above, rfl⟩ := List.head?_eq_some_iff.mp first
    exact ⟨above, member⟩
  · intro visited
    obtain ⟨above, member⟩ := visited
    exact ⟨_, rfl, member⟩

/-! ## Visits as the steps that lead to them -/

/-- From the visit of a node to the visit of one of its children. -/
def Visit.Steps (schema : Schema ν) (above below : Visit ν) : Prop :=
  ∃ kids, children schema above.node = .ok kids ∧ ∃ node ∈ kids, below = above.child node

/-- From a visit through any number of steps to visits below it. -/
abbrev Visit.Leads (schema : Schema ν) : Visit ν → Visit ν → Prop :=
  Relation.ReflTransGen (Visit.Steps schema)

/-- Every visit of a traversal is reached by steps from where it starts, also if it is refused. -/
theorem leads_of_mem_visits {schema : Schema ν} {start visit : Visit ν}
    (member : visit ∈ (visits schema start).state) : Visit.Leads schema start visit := by
  obtain ⟨node, ancestry⟩ := start
  induction node using tree_induction schema generalizing ancestry with
  | refused node refusal found =>
      rw [visits_of_refused found] at member
      rw [List.mem_singleton.mp member]
  | accepted node kids found inductionHypothesis =>
      rw [visits_of_children found, Outcome.accepted_andThen] at member
      rcases List.mem_cons.mp member with same | below
      · rw [same]
      · obtain ⟨walk, isBelow, inWalk, _⟩ := exists_of_mem_joinWalks below
        obtain ⟨child, isChild, rfl⟩ := List.mem_map.mp isBelow
        exact .head ⟨kids, found, child, isChild, rfl⟩
          (inductionHypothesis child isChild (node :: ancestry) inWalk)

/-- A traversal that is not refused also visits what a step from one of its visits leads to. -/
theorem mem_visits_of_steps {schema : Schema ν} {start above below : Visit ν}
    (accepted : (visits schema start).refusal? = none)
    (member : above ∈ (visits schema start).state) (steps : above.Steps schema below) :
    below ∈ (visits schema start).state := by
  obtain ⟨node, ancestry⟩ := start
  induction node using tree_induction schema generalizing ancestry with
  | refused node refusal found =>
      rw [visits_of_refused found] at accepted
      cases accepted
  | accepted node kids found inductionHypothesis =>
      rw [visits_of_children found, Outcome.accepted_andThen] at accepted member ⊢
      obtain ⟨eachAccepted, joined⟩ := of_joinWalks_accepted accepted
      rw [joined, List.flatMap_map] at member ⊢
      refine List.mem_cons_of_mem _ (List.mem_flatMap.mpr ?_)
      rcases List.mem_cons.mp member with same | inBelow
      · obtain ⟨otherKids, otherFound, child, isChild, rfl⟩ := steps
        rw [same] at otherFound ⊢
        rw [found] at otherFound
        cases otherFound
        exact ⟨child, isChild, mem_visits_self schema _⟩
      · obtain ⟨child, isChild, inChild⟩ := List.mem_flatMap.mp inBelow
        exact ⟨child, isChild, inductionHypothesis child isChild (node :: ancestry)
          (eachAccepted _ (List.mem_map_of_mem isChild)) inChild⟩

/-- The visits of a traversal that is not refused are what steps lead to from where it starts. -/
theorem mem_visits_iff {schema : Schema ν} {start : Visit ν}
    (accepted : (visits schema start).refusal? = none) (visit : Visit ν) :
    visit ∈ (visits schema start).state ↔ Visit.Leads schema start visit := by
  constructor
  · exact leads_of_mem_visits
  · intro leads
    induction leads with
    | refl => exact mem_visits_self schema start
    | tail _ steps inductionHypothesis =>
        exact mem_visits_of_steps accepted inductionHypothesis steps

end SyntaxQuery
