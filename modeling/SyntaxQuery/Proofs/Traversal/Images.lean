import SyntaxQuery.Proofs.Traversal.Visits
import SyntaxQuery.Proofs.Tree.Images

/-!
Contract: traversals of two trees, one of which is the image of the other.

Two schemas agree at a node if the child fields of the node and of its image hold the same, as far
as there are nodes in them, or if both refuse it alike. A traversal whose schema agrees with another
at each node that it enters is followed by the traversal of the image, event by event
(`traversalEvents_image`).

Does not own: what is tested at a visit.
-/

namespace SyntaxQuery

/-! ## Walks one after another -/

section Joining

variable {α β κ : Type}

/-- The outcome with each of its items replaced. -/
def Outcome.map (each : α → β) (outcome : Outcome (List α)) : Outcome (List β) :=
  ⟨outcome.state.map each, outcome.refusal?⟩

theorem Outcome.map_andThen (each : α → β) (first second : Outcome (List α)) :
    (first.andThen second).map each = (first.map each).andThen (second.map each) := by
  cases refused : first.refusal? with
  | some refusal =>
      have mapRefused : (first.map each).refusal? = some refusal := refused
      rw [Outcome.andThen_of_refused refused, Outcome.andThen_of_refused mapRefused]
  | none =>
      have mapAccepted : (first.map each).refusal? = none := refused
      rw [Outcome.andThen_of_accepted refused, Outcome.andThen_of_accepted mapAccepted]
      simp only [Outcome.map, List.map_append]

/-- Joined walks are followed by others if each of them is that takes place. -/
theorem joinWalks_map_of_seen {each : α → β} {walkOf : κ → Outcome (List α)}
    {otherOf : κ → Outcome (List β)} {kids : List κ}
    (follows : ∀ child ∈ kids, (walkOf child).state ⊆ (joinWalks (kids.map walkOf)).state →
      otherOf child = (walkOf child).map each) :
    joinWalks (kids.map otherOf) = (joinWalks (kids.map walkOf)).map each := by
  induction kids with
  | nil => rfl
  | cons child rest inductionHypothesis =>
      rw [List.map_cons, joinWalks_cons] at follows ⊢
      rw [List.map_cons, joinWalks_cons]
      have first := follows child List.mem_cons_self (Outcome.prefix_andThen _ _).subset
      cases refused : (walkOf child).refusal? with
      | some refusal =>
          -- The walks after a refused one do not take place, so nothing is known of them.
          have otherRefused : (otherOf child).refusal? = some refusal := by
            rw [first]
            exact refused
          rw [Outcome.andThen_of_refused refused, Outcome.andThen_of_refused otherRefused, first]
      | none =>
          rw [Outcome.andThen_of_accepted refused] at follows
          have later := inductionHypothesis fun other member within =>
            follows other (List.mem_cons_of_mem child member)
              (List.Subset.trans within (List.subset_append_right _ _))
          rw [first, later, Outcome.map_andThen]

end Joining

variable {ν μ : Type}

/-! ## Images of events and visits -/

def Event.map (image : ν → μ) : Event ν → Event μ
  | .enter node parent? => .enter (image node) (parent?.map image)
  | .leave node parent? => .leave (image node) (parent?.map image)

def Visit.map (image : ν → μ) (visit : Visit ν) : Visit μ :=
  ⟨image visit.node, visit.ancestry.map image⟩

def AncestryStack.map (image : ν → μ) (stack : AncestryStack ν) : AncestryStack μ :=
  ⟨stack.nodes.map image⟩

theorem AncestryStack.follow_map (image : ν → μ) (stack : AncestryStack ν) (event : Event ν) :
    (stack.map image).follow (event.map image) = (stack.follow event).map image := by
  obtain ⟨nodes⟩ := stack
  cases event with
  | enter node parent? => cases parent? <;> rfl
  | leave node parent? => cases nodes <;> rfl

theorem visitsAlong_map (image : ν → μ) (stack : AncestryStack ν) (events : List (Event ν)) :
    visitsAlong (stack.map image) (events.map (Event.map image)) =
      (visitsAlong stack events).map (Visit.map image) := by
  induction events generalizing stack with
  | nil => rfl
  | cons event rest inductionHypothesis =>
      have followed := AncestryStack.follow_map image stack event
      cases event with
      | enter node parent? =>
          rw [Event.map] at followed
          rw [List.map_cons, Event.map, visitsAlong, visitsAlong, followed, inductionHypothesis]
          rfl
      | leave node parent? =>
          rw [Event.map] at followed
          rw [List.map_cons, Event.map, visitsAlong, visitsAlong, followed, inductionHypothesis]

variable [SyntaxNode ν] [SyntaxNode μ]

/-! ## Schemas that agree -/

/-- What the child fields of a node hold, in schema order, as far as there are nodes in it, or the
refusal of the node. -/
def heldValues (schema : Schema ν) (node : ν) : Except UnknownNodeType (List (Value ν)) :=
  (schema node).map fun fields =>
    (fields.map (SyntaxNode.field node)).filter fun value => !value.nodes.isEmpty

/-- The children of a node are those in the values that its child fields hold. -/
theorem children_eq_heldValues (schema : Schema ν) (node : ν) :
    children schema node =
      (heldValues schema node).map fun values => values.flatMap Value.nodes := by
  have withoutEmpty (values : List (Value ν)) :
      (values.filter fun value => !value.nodes.isEmpty).flatMap Value.nodes =
        values.flatMap Value.nodes := by
    induction values with
    | nil => rfl
    | cons value rest inductionHypothesis =>
        cases found : value.nodes with
        | nil => simp [found, inductionHypothesis]
        | cons first others => simp [found, inductionHypothesis]
  unfold children heldValues
  cases schema node with
  | error refusal => rfl
  | ok fields =>
      simp only [Except.map, withoutEmpty, List.flatMap_map]

/-- The other schema refuses the image of a node like the schema refuses the node, or the child
fields of the image hold the images of what those of the node hold, apart from values without
nodes. -/
def AgreesAt (schema : Schema ν) (other : Schema μ) (image : ν → μ) (node : ν) : Prop :=
  heldValues other (image node) = (heldValues schema node).map (List.map (Value.map image))

variable {schema : Schema ν} {other : Schema μ} {image : ν → μ}

theorem AgreesAt.children_image {node : ν} (agrees : AgreesAt schema other image node) :
    children other (image node) = (children schema node).map (List.map image) := by
  unfold AgreesAt at agrees
  rw [children_eq_heldValues, children_eq_heldValues, agrees]
  cases heldValues schema node with
  | error refusal => rfl
  | ok values =>
      simp only [Except.map, List.flatMap_map, List.map_flatMap, Value.nodes_map]

/-! ## Traversals -/

theorem walk_image (node : ν) (parent? : Option ν)
    (agrees : ∀ entered origin?, .enter entered origin? ∈ (walk schema node parent?).state →
      AgreesAt schema other image entered) :
    walk other (image node) (parent?.map image) =
      (walk schema node parent?).map (Event.map image) := by
  induction node using tree_induction schema generalizing parent? with
  | refused node refusal found =>
      rw [walk_of_refused found] at agrees ⊢
      have otherFound := (agrees node parent? List.mem_cons_self).children_image
      rw [found] at otherFound
      rw [walk_of_refused otherFound]
      rfl
  | accepted node kids found inductionHypothesis =>
      rw [walk_of_children found, Outcome.accepted_andThen] at agrees
      have otherFound := (agrees node parent? List.mem_cons_self).children_image
      rw [found] at otherFound
      have below : joinWalks ((kids.map image).map fun child =>
            walk other child (some (image node))) =
          (joinWalks (kids.map fun child => walk schema child (some node))).map
            (Event.map image) := by
        rw [List.map_map]
        refine joinWalks_map_of_seen fun child isChild within => ?_
        refine inductionHypothesis child isChild (some node) fun entered origin? member => ?_
        refine agrees entered origin? (List.mem_cons_of_mem _ ?_)
        exact (Outcome.prefix_andThen _ _).subset (within member)
      rw [walk_of_children otherFound, walk_of_children found, Outcome.map_andThen,
        Outcome.map_andThen, below]
      rfl

/-- A traversal is followed by that of the image where the schemas agree at every node that it
enters, the refused one included. -/
theorem traversalEvents_image {root : ν}
    (agrees : ∀ node, Enters schema root node → AgreesAt schema other image node) :
    traversalEvents other (image root) = (traversalEvents schema root).map (Event.map image) := by
  rw [traversalEvents_eq_walk, traversalEvents_eq_walk]
  refine walk_image root none fun entered origin? member => agrees entered ⟨origin?, ?_⟩
  rwa [traversalEvents_eq_walk]

theorem visits_image {root : ν}
    (agrees : ∀ node, Enters schema root node → AgreesAt schema other image node) :
    visits other (.root (image root)) = (visits schema (.root root)).map (Visit.map image) := by
  have tracks := traversal_tracks schema root
  have otherTracks := traversal_tracks other (image root)
  rw [traversalEvents_image agrees] at otherTracks
  have sameVisits := otherTracks.along.symm.trans (visitsAlong_map image .empty _)
  rw [tracks.along] at sameVisits
  have sameRefusal := otherTracks.refusal.symm.trans tracks.refusal
  cases seen : visits other (.root (image root)) with
  | mk state refusal? =>
      rw [seen] at sameVisits sameRefusal
      cases sameVisits
      cases sameRefusal
      rfl

end SyntaxQuery
