import SyntaxQuery.Tree.Walk

/-!
Contract: the loop over an agenda follows the recursive walk.

`traverse_eq_foldl_walk` is the main statement: whatever is done at the events, the loop does it at
the events of the walk, in their order, and ends with the refusal of the walk. The induction is on
the agenda, where an entry stands for the walk that it begins.

Owns: the laws by which walks are joined, induction on the tree below a node, and the loop.
Does not own: the ancestors of the entered nodes.
-/

namespace SyntaxQuery

/-! ## Walks one after another -/

/-- What two walks yield, of which the second only takes place if the first was not refused. -/
def Outcome.andThen {α : Type} (first second : Outcome (List α)) : Outcome (List α) :=
  match first.refusal? with
  | some refusal => ⟨first.state, some refusal⟩
  | none => ⟨first.state ++ second.state, second.refusal?⟩

section Joining

variable {α : Type}

theorem Outcome.accepted_andThen (state : List α) (second : Outcome (List α)) :
    Outcome.andThen ⟨state, none⟩ second = ⟨state ++ second.state, second.refusal?⟩ := rfl

theorem Outcome.andThen_of_refused {first : Outcome (List α)} {refusal : UnknownNodeType}
    (refused : first.refusal? = some refusal) (second : Outcome (List α)) :
    first.andThen second = first := by
  obtain ⟨state, refusal?⟩ := first
  cases refused
  rfl

theorem Outcome.andThen_of_accepted {first : Outcome (List α)} (accepted : first.refusal? = none)
    (second : Outcome (List α)) :
    first.andThen second = ⟨first.state ++ second.state, second.refusal?⟩ := by
  simp only [Outcome.andThen, accepted]

theorem Outcome.prefix_andThen (first second : Outcome (List α)) :
    first.state <+: (first.andThen second).state := by
  cases refused : first.refusal? with
  | some refusal =>
      rewrite [Outcome.andThen_of_refused refused]
      exact List.prefix_rfl
  | none =>
      rw [Outcome.andThen_of_accepted refused]
      exact List.prefix_append _ _

theorem Outcome.andThen_assoc (first second third : Outcome (List α)) :
    (first.andThen second).andThen third = first.andThen (second.andThen third) := by
  cases firstRefused : first.refusal? with
  | some refusal =>
      rw [Outcome.andThen_of_refused firstRefused, Outcome.andThen_of_refused firstRefused,
        Outcome.andThen_of_refused firstRefused]
  | none =>
      rw [Outcome.andThen_of_accepted firstRefused, Outcome.andThen_of_accepted firstRefused]
      cases secondRefused : second.refusal? with
      | some refusal =>
          rw [Outcome.andThen_of_refused secondRefused, secondRefused,
            Outcome.andThen_of_refused rfl]
      | none =>
          rw [Outcome.andThen_of_accepted secondRefused, Outcome.accepted_andThen,
            List.append_assoc]

theorem joinWalks_cons (first : Outcome (List α)) (rest : List (Outcome (List α))) :
    joinWalks (first :: rest) = first.andThen (joinWalks rest) := rfl

theorem joinWalks_append (left right : List (Outcome (List α))) :
    joinWalks (left ++ right) = (joinWalks left).andThen (joinWalks right) := by
  induction left with
  | nil => rfl
  | cons first rest inductionHypothesis =>
      rw [List.cons_append, joinWalks_cons, inductionHypothesis, joinWalks_cons,
        Outcome.andThen_assoc]

/-- What joined walks yield was yielded by one of them, of which they yield everything. -/
theorem exists_of_mem_joinWalks {walks : List (Outcome (List α))} {item : α}
    (member : item ∈ (joinWalks walks).state) :
    ∃ walk ∈ walks, item ∈ walk.state ∧ walk.state ⊆ (joinWalks walks).state := by
  induction walks with
  | nil => cases member
  | cons first rest inductionHypothesis =>
      rw [joinWalks_cons] at member ⊢
      cases refused : first.refusal? with
      | some refusal =>
          rw [Outcome.andThen_of_refused refused] at member ⊢
          exact ⟨first, List.mem_cons_self, member, fun _ within => within⟩
      | none =>
          rw [Outcome.andThen_of_accepted refused] at member ⊢
          rcases List.mem_append.mp member with here | later
          · exact ⟨first, List.mem_cons_self, here, List.subset_append_left _ _⟩
          · obtain ⟨walk, inRest, inWalk, within⟩ := inductionHypothesis later
            exact ⟨walk, List.mem_cons_of_mem first inRest, inWalk,
              fun _ inside => List.mem_append_right _ (within inside)⟩

/-- Where joined walks are not refused, none of them was, and all of them took place. -/
theorem of_joinWalks_accepted {walks : List (Outcome (List α))}
    (accepted : (joinWalks walks).refusal? = none) :
    (∀ walk ∈ walks, walk.refusal? = none) ∧
      (joinWalks walks).state = walks.flatMap Outcome.state := by
  induction walks with
  | nil => exact ⟨by simp, rfl⟩
  | cons first rest inductionHypothesis =>
      rw [joinWalks_cons] at accepted ⊢
      cases refused : first.refusal? with
      | some refusal =>
          rw [Outcome.andThen_of_refused refused, refused] at accepted
          cases accepted
      | none =>
          rw [Outcome.andThen_of_accepted refused] at accepted ⊢
          obtain ⟨restAccepted, restState⟩ := inductionHypothesis accepted
          refine ⟨?_, by rw [restState, List.flatMap_cons]⟩
          intro walk member
          rcases List.mem_cons.mp member with same | later
          · rw [same, refused]
          · exact restAccepted walk later

end Joining

variable {ν σ : Type} [SyntaxNode ν]

/-! ## Recursion on the tree below a node -/

/-- Induction on the tree that a schema spans below a node: a refused node is a leaf, and for an
accepted one the statement is known of its children. -/
@[elab_as_elim]
theorem tree_induction (schema : Schema ν) {motive : ν → Prop}
    (refused : ∀ node refusal, children schema node = .error refusal → motive node)
    (accepted : ∀ node kids, children schema node = .ok kids →
      (∀ child ∈ kids, motive child) → motive node)
    (node : ν) : motive node :=
  match found : children schema node with
  | .error refusal => refused node refusal found
  | .ok kids => accepted node kids found fun child _member =>
      tree_induction schema refused accepted child
termination_by SyntaxNode.size node
decreasing_by exact size_lt_of_mem_children found _member

theorem walk_of_refused {schema : Schema ν} {node : ν} {refusal : UnknownNodeType}
    (found : children schema node = .error refusal) (parent? : Option ν) :
    walk schema node parent? = ⟨[.enter node parent?], some refusal⟩ := by
  rw [walk]
  split
  · next other => rw [found] at other; cases other; rfl
  · next other => rw [found] at other; cases other

/-- The walk below an accepted node in three stretches: entering it, the walks of its children, and
leaving it. -/
theorem walk_of_children {schema : Schema ν} {node : ν} {kids : List ν}
    (found : children schema node = .ok kids) (parent? : Option ν) :
    walk schema node parent? =
      Outcome.andThen ⟨[.enter node parent?], none⟩
        ((joinWalks (kids.map fun child => walk schema child (some node))).andThen
          ⟨[.leave node parent?], none⟩) := by
  rw [walk]
  split
  · next other => rw [found] at other; cases other
  · next other =>
      rw [found] at other
      cases other
      have unattached : (kids.attach.map fun child => walk schema child.val (some node)) =
          kids.map fun child => walk schema child (some node) :=
        List.attach_map_val (f := fun child => walk schema child (some node))
      simp only [unattached, Outcome.andThen]
      split <;> simp [*]

/-! ## The loop -/

theorem traverseAgenda_enter_refused {schema : Schema ν} {node : ν} {refusal : UnknownNodeType}
    (found : children schema node = .error refusal) (visit : σ → Event ν → σ)
    (parent? : Option ν) (rest : List (Event ν)) (state : σ) :
    traverseAgenda schema visit (.enter node parent? :: rest) state =
      ⟨visit state (.enter node parent?), some refusal⟩ := by
  rw [traverseAgenda]
  split
  · next other => rw [found] at other; cases other; rfl
  · next other => rw [found] at other; cases other

theorem traverseAgenda_enter_accepted {schema : Schema ν} {node : ν} {kids : List ν}
    (found : children schema node = .ok kids) (visit : σ → Event ν → σ) (parent? : Option ν)
    (rest : List (Event ν)) (state : σ) :
    traverseAgenda schema visit (.enter node parent? :: rest) state =
      traverseAgenda schema visit (enterAll node kids ++ .leave node parent? :: rest)
        (visit state (.enter node parent?)) := by
  rw [traverseAgenda]
  split
  · next other => rw [found] at other; cases other
  · next other => rw [found] at other; cases other; rfl

/-- The walk that an entry of an agenda stands for. -/
def Event.walk (schema : Schema ν) : Event ν → Outcome (List (Event ν))
  | .enter node parent? => SyntaxQuery.walk schema node parent?
  | .leave node parent? => ⟨[.leave node parent?], none⟩

/-- The walk that an agenda stands for. -/
def agendaWalk (schema : Schema ν) (agenda : List (Event ν)) : Outcome (List (Event ν)) :=
  joinWalks (agenda.map (Event.walk schema))

theorem agendaWalk_leave (schema : Schema ν) (node : ν) (parent? : Option ν)
    (rest : List (Event ν)) :
    agendaWalk schema (.leave node parent? :: rest) =
      Outcome.andThen ⟨[.leave node parent?], none⟩ (agendaWalk schema rest) := rfl

/-- Putting the children of an entered node on the agenda, before its leaving, keeps the walk that
the agenda stands for, less the event just done. -/
theorem agendaWalk_enter {schema : Schema ν} {node : ν} {kids : List ν} (parent? : Option ν)
    (rest : List (Event ν)) (found : children schema node = .ok kids) :
    agendaWalk schema (.enter node parent? :: rest) =
      Outcome.andThen ⟨[.enter node parent?], none⟩
        (agendaWalk schema (enterAll node kids ++ .leave node parent? :: rest)) := by
  have entered : agendaWalk schema (enterAll node kids) =
      joinWalks (kids.map fun child => walk schema child (some node)) := by
    simp only [agendaWalk, enterAll, List.map_map]
    rfl
  have split : agendaWalk schema (enterAll node kids ++ .leave node parent? :: rest) =
      (agendaWalk schema (enterAll node kids)).andThen
        (Outcome.andThen ⟨[.leave node parent?], none⟩ (agendaWalk schema rest)) := by
    simp only [agendaWalk, List.map_append, List.map_cons, joinWalks_append, joinWalks_cons,
      Event.walk]
  rw [split, entered]
  show (walk schema node parent?).andThen (agendaWalk schema rest) = _
  rw [walk_of_children found, Outcome.andThen_assoc, Outcome.andThen_assoc]

/-- The loop does what is to be done at the events of the walk that its agenda stands for. -/
theorem traverseAgenda_eq_foldl (schema : Schema ν) (visit : σ → Event ν → σ)
    (agenda : List (Event ν)) (state : σ) :
    traverseAgenda schema visit agenda state =
      ⟨(agendaWalk schema agenda).state.foldl visit state,
        (agendaWalk schema agenda).refusal?⟩ := by
  induction agenda, state using traverseAgenda.induct schema visit with
  | case1 state => rw [traverseAgenda]; rfl
  | case2 node parent? rest state refusal found =>
      have stopped : agendaWalk schema (.enter node parent? :: rest) =
          ⟨[.enter node parent?], some refusal⟩ := by
        show (walk schema node parent?).andThen (agendaWalk schema rest) = _
        rw [walk_of_refused found, Outcome.andThen_of_refused rfl]
      rw [traverseAgenda_enter_refused found, stopped]
      rfl
  | case3 node parent? rest state entered kids found inductionHypothesis =>
      rw [traverseAgenda_enter_accepted found, agendaWalk_enter parent? rest found,
        Outcome.accepted_andThen]
      exact inductionHypothesis
  | case4 node parent? rest state inductionHypothesis =>
      rw [traverseAgenda, inductionHypothesis, agendaWalk_leave, Outcome.accepted_andThen]
      rfl

/-- A traversal does what is to be done at the events of the recursive walk, in order, and is
refused where the walk is. -/
theorem traverse_eq_foldl_walk (schema : Schema ν) (visit : σ → Event ν → σ) (root : ν)
    (state : σ) :
    traverse schema visit root state =
      ⟨(walk schema root none).state.foldl visit state, (walk schema root none).refusal?⟩ := by
  have single : agendaWalk schema [.enter root none] = walk schema root none := by
    show (walk schema root none).andThen ⟨[], none⟩ = _
    cases refused : (walk schema root none).refusal? with
    | some refusal => rw [Outcome.andThen_of_refused refused]
    | none => rw [Outcome.andThen_of_accepted refused, List.append_nil, ← refused]
  rw [traverse, traverseAgenda_eq_foldl, single]

/-- The events of the loop are those of the recursive walk. -/
theorem traversalEvents_eq_walk (schema : Schema ν) (root : ν) :
    traversalEvents schema root = walk schema root none := by
  have collected (events done : List (Event ν)) :
      events.foldl (fun events event => event :: events) done = events.reverse ++ done := by
    induction events generalizing done with
    | nil => rfl
    | cons event rest inductionHypothesis => simp [inductionHypothesis]
  simp only [traversalEvents, traverse_eq_foldl_walk, collected, List.append_nil,
    List.reverse_reverse]

end SyntaxQuery
