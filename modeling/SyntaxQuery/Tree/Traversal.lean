import SyntaxQuery.Tree.Node

/-!
Contract: depth-first traversal of a syntax tree.

Owns:
- the events of a traversal;
- the loop over an explicit agenda, which needs no stack of calls;
- the number of events that an agenda stands for, by which the loop ends.

Does not own: what is done at an event.
-/

namespace SyntaxQuery

/-- What happens at a node: it is entered before its descendants and left after them. The parent is
missing at the root alone. -/
inductive Event (ν : Type) where
  | enter (node : ν) (parent? : Option ν)
  | leave (node : ν) (parent? : Option ν)

/-- The state after a traversal, and the refusal that ended it early. -/
structure Outcome (σ : Type) where
  state : σ
  refusal? : Option UnknownNodeType

/-! ## The size of an agenda -/

variable {ν σ : Type} [SyntaxNode ν]

-- Sums of numbers start from the numeral here, whatever algebra of numbers is known as well.
attribute [local instance (high)] Zero.ofOfNat0

/-- The number of events of the traversal below a node, with two for a node that is refused. -/
def eventCount (schema : Schema ν) (node : ν) : Nat :=
  match _found : children schema node with
  | .error _ => 2
  | .ok kids => 2 + (kids.attach.map fun child => eventCount schema child.val).sum
termination_by SyntaxNode.size node
decreasing_by exact size_lt_of_mem_children _found child.property

/-- The events below an accepted node are its own two and those of its children. -/
theorem eventCount_of_children {schema : Schema ν} {node : ν} {kids : List ν}
    (found : children schema node = .ok kids) :
    eventCount schema node = 2 + (kids.map (eventCount schema)).sum := by
  rw [eventCount]
  split
  · next refused => rw [found] at refused; cases refused
  · next accepted =>
      rw [found] at accepted
      cases accepted
      rw [List.attach_map_val]

/-- The events that an entry of an agenda stands for. -/
def Event.pending (schema : Schema ν) : Event ν → Nat
  | .enter node _ => eventCount schema node
  | .leave _ _ => 1

/-- The events that an agenda stands for. -/
def pending (schema : Schema ν) (agenda : List (Event ν)) : Nat :=
  (agenda.map (Event.pending schema)).sum

theorem pending_cons (schema : Schema ν) (entry : Event ν) (rest : List (Event ν)) :
    pending schema (entry :: rest) = entry.pending schema + pending schema rest := by
  rw [pending, List.map_cons, List.sum_cons, pending]

theorem pending_append (schema : Schema ν) (before after : List (Event ν)) :
    pending schema (before ++ after) = pending schema before + pending schema after := by
  rw [pending, List.map_append, List.sum_append_nat, pending, pending]

/-- The agenda entries for the children of a node. -/
def enterAll (parent : ν) (kids : List ν) : List (Event ν) :=
  kids.map fun child => .enter child (some parent)

/-- Entering a node leaves one event less than before. -/
theorem pending_enterAll {schema : Schema ν} {node : ν} {kids : List ν} (parent? : Option ν)
    (rest : List (Event ν)) (found : children schema node = .ok kids) :
    pending schema (enterAll node kids ++ .leave node parent? :: rest) + 1 =
      pending schema (.enter node parent? :: rest) := by
  have entries : pending schema (enterAll node kids) = (kids.map (eventCount schema)).sum := by
    rw [pending, enterAll, List.map_map]
    rfl
  rw [pending_append, pending_cons, pending_cons, Event.pending, Event.pending, entries,
    eventCount_of_children found]
  omega

/-! ## The loop -/

/-- Works off an agenda, entry by entry. Entering a node puts its children before the rest of the
agenda, with its leaving after them; a refusal ends the work at once. -/
def traverseAgenda (schema : Schema ν) (visit : σ → Event ν → σ) :
    List (Event ν) → σ → Outcome σ
  | [], state => ⟨state, none⟩
  | .enter node parent? :: rest, state =>
      let state := visit state (.enter node parent?)
      match _found : children schema node with
      | .error refusal => ⟨state, some refusal⟩
      | .ok kids =>
          traverseAgenda schema visit (enterAll node kids ++ .leave node parent? :: rest) state
  | .leave node parent? :: rest, state =>
      traverseAgenda schema visit rest (visit state (.leave node parent?))
termination_by agenda => pending schema agenda
decreasing_by
  · have entered := pending_enterAll parent? rest _found
    omega
  · rw [pending_cons, Event.pending]
    omega

/-- Traverses the tree below a node, which has no parent in this traversal. -/
def traverse (schema : Schema ν) (visit : σ → Event ν → σ) (root : ν) (state : σ) : Outcome σ :=
  traverseAgenda schema visit [.enter root none] state

/-- The events of a traversal, up to a refusal. -/
def traversalEvents (schema : Schema ν) (root : ν) : Outcome (List (Event ν)) :=
  let outcome := traverse schema (fun events event => event :: events) root []
  ⟨outcome.state.reverse, outcome.refusal?⟩

/-- The node that an event enters. -/
def Event.entered? : Event ν → Option ν
  | .enter node _ => some node
  | .leave _ _ => none

end SyntaxQuery
