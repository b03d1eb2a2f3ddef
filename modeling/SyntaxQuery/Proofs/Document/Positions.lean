import SyntaxQuery.Document.Node
import SyntaxQuery.Proofs.Query.Records
import SyntaxQuery.Proofs.Traversal.Identity

/-!
Contract: the nodes of a document are told apart by their positions.

A child stands one or two steps below its parent: under a field, or at an index of the list there.
So a position determines the position of the parent and the value that stands there, and by
induction along the steps of a traversal the whole visit (`visit_eq_of_position_eq`).

Does not own: the textual form of positions.
-/

namespace SyntaxQuery

/-- The value that some steps lead to. -/
def Json.follow? : Json → List Step → Option Json
  | value, [] => some value
  | value, .member key :: rest => (value.member? key).bind (Json.follow? · rest)
  | value, .element index :: rest => (value.element? index).bind (Json.follow? · rest)

theorem Json.follow?_append (value : Json) (before after : List Step) :
    value.follow? (before ++ after) = (value.follow? before).bind (Json.follow? · after) := by
  induction before generalizing value with
  | nil => rfl
  | cons step rest inductionHypothesis =>
      cases step with
      | member key =>
          rw [List.cons_append, Json.follow?, Json.follow?, Option.bind_assoc]
          exact Option.bind_congr fun held _ => inductionHypothesis held
      | element index =>
          rw [List.cons_append, Json.follow?, Json.follow?, Option.bind_assoc]
          exact Option.bind_congr fun held _ => inductionHypothesis held

namespace DocumentNode

/-- The root of a document stands at the empty position. -/
theorem eq_of_root? {document : Json} {root : DocumentNode} (isRoot : root? document = some root) :
    root = ⟨[], document⟩ := by
  unfold root? at isRoot
  split at isRoot
  · cases isRoot; rfl
  · cases isRoot

/-- The steps from a record to a node that its field of a name holds. -/
def IsFieldPath (name : String) (steps : List Step) : Prop :=
  steps = [.member name] ∨ ∃ index, steps = [.member name, .element index]

/-- What an element of a list holds, with its place in the list. -/
theorem getElem?_holdingItems (position : List Step) (start place : Nat) (items : List Json) :
    (holdingItems position start items)[place]? =
      items[place]?.map (holding (position ++ [.element (start + place)])) := by
  induction items generalizing start place with
  | nil => rfl
  | cons item rest inductionHypothesis =>
      cases place with
      | zero => rfl
      | succ place =>
          rw [holdingItems, List.getElem?_cons_succ, inductionHypothesis, List.getElem?_cons_succ,
            Nat.add_right_comm, Nat.add_assoc]

/-- A value that is itself a record is so at its own position. -/
theorem eq_of_record?_holding {position : List Step} {value : Json} {record : DocumentNode}
    (held : (holding position value).record? = some record) : record = ⟨position, value⟩ := by
  cases value with
  | object members =>
      rw [holding] at held
      split at held
      · cases held; rfl
      · cases held; rfl
  | _ => cases held

theorem eq_of_holding_eq_node {position : List Step} {value : Json} {node : DocumentNode}
    (held : holding position value = .node node) : node = ⟨position, value⟩ :=
  eq_of_record?_holding (congrArg Value.record? held)

theorem position_eq_of_field_eq_node {parent node : DocumentNode} {name : String}
    (held : parent.field name = .node node) :
    node.position = parent.position ++ [.member name] := by
  unfold field at held
  split at held
  · rw [eq_of_holding_eq_node held]
  · cases held

/-- A list that a field holds consists of what the elements of an array hold. -/
theorem eq_holdingItems_of_field_eq_list {node : DocumentNode} {name : String}
    {items : List (Value DocumentNode)} (held : node.field name = .list items) :
    ∃ values, node.value.member? name = some (.array values) ∧
      items = holdingItems (node.position ++ [.member name]) 0 values := by
  unfold field at held
  split at held
  · next value found =>
      cases value with
      | array values =>
          cases held
          exact ⟨values, found, rfl⟩
      | object members =>
          rw [holding] at held
          split at held <;> cases held
      | _ => cases held
  · cases held

/-- A node at a place of a list that a field holds: its position, and its value. -/
theorem eq_of_getElem?_field {parent node : DocumentNode} {name : String}
    {items : List (Value DocumentNode)} {place : Nat} (held : parent.field name = .list items)
    (atPlace : items[place]? = some (.node node)) :
    node.position = parent.position ++ [.member name, .element place] ∧
      parent.value.follow? [.member name, .element place] = some node.value := by
  obtain ⟨values, found, rfl⟩ := eq_holdingItems_of_field_eq_list held
  rw [getElem?_holdingItems, Option.map_eq_some_iff] at atPlace
  obtain ⟨value, valueAt, isNode⟩ := atPlace
  rw [eq_of_holding_eq_node isNode, Nat.zero_add]
  constructor
  · rw [List.append_assoc]
    rfl
  · simp only [Json.follow?, found, Json.element?, valueAt, Option.bind_some]

/-- Where a record that a field leads to stands, seen from the record of the field. -/
theorem exists_steps_of_mem_records {parent child : DocumentNode} {name : String}
    (held : child ∈ (parent.field name).records) :
    ∃ steps, IsFieldPath name steps ∧ child.position = parent.position ++ steps ∧
      parent.value.follow? steps = some child.value := by
  unfold field at held
  split at held
  · next value found =>
      cases value with
      | array values =>
          rw [holding, Value.records, List.mem_filterMap] at held
          obtain ⟨item, isItem, isRecord⟩ := held
          obtain ⟨place, atPlace⟩ := List.mem_iff_getElem?.mp isItem
          rw [getElem?_holdingItems, Option.map_eq_some_iff] at atPlace
          obtain ⟨inside, insideAt, rfl⟩ := atPlace
          rw [eq_of_record?_holding isRecord, Nat.zero_add]
          refine ⟨[.member name, .element place], .inr ⟨place, rfl⟩, ?_, ?_⟩
          · rw [List.append_assoc]
            rfl
          · simp only [Json.follow?, found, Json.element?, insideAt, Option.bind_some]
      | object members =>
          have records_eq (position : List Step) :
              (holding position (.object members)).records =
                (holding position (.object members)).record?.toList := by
            rw [holding]
            split <;> rfl
          rw [records_eq, Option.mem_toList] at held
          rw [eq_of_record?_holding held]
          exact ⟨[.member name], .inl rfl, rfl, by simp only [Json.follow?, found, Option.bind_some]⟩
      | _ => cases held
  · cases held

/-- Where a node that a field holds stands, seen from the record of the field. -/
theorem exists_steps_of_mem_field {parent child : DocumentNode} {name : String}
    (held : child ∈ (parent.field name).nodes) :
    ∃ steps, IsFieldPath name steps ∧ child.position = parent.position ++ steps ∧
      parent.value.follow? steps = some child.value :=
  exists_steps_of_mem_records (Value.nodes_subset_records _ held)

/-- Field paths to one position start from one position. -/
theorem IsFieldPath.append_inj {name otherName : String} {steps otherSteps before other : List Step}
    (path : IsFieldPath name steps) (otherPath : IsFieldPath otherName otherSteps)
    (same : before ++ steps = other ++ otherSteps) : before = other ∧ steps = otherSteps := by
  rcases path with rfl | ⟨index, rfl⟩ <;> rcases otherPath with rfl | ⟨otherIndex, rfl⟩
  · exact List.append_inj' same rfl
  -- Paths of unlike lengths end in a member and in an element.
  · have ends := congrArg List.getLast? same
    simp at ends
  · have ends := congrArg List.getLast? same
    simp at ends
  · exact List.append_inj' same rfl

/-- A field path begins with the name of its field. -/
theorem IsFieldPath.name_eq {name otherName : String} {steps : List Step}
    (path : IsFieldPath name steps) (otherPath : IsFieldPath otherName steps) :
    name = otherName := by
  rcases path with rfl | ⟨_, rfl⟩ <;> rcases otherPath with same | ⟨_, same⟩ <;> cases same <;> rfl

theorem IsFieldPath.append_ne_nil {name : String} {steps : List Step}
    (path : IsFieldPath name steps) (before : List Step) : before ++ steps ≠ [] := by
  rcases path with rfl | ⟨index, rfl⟩ <;> simp

end DocumentNode

open DocumentNode

variable {schema : Schema DocumentNode}

/-- A step of a traversal goes along a field path. -/
theorem Visit.Steps.exists_steps {above below : Visit DocumentNode}
    (steps : above.Steps schema below) :
    below.ancestry = above.node :: above.ancestry ∧ ∃ name path, IsFieldPath name path ∧
      below.node.position = above.node.position ++ path ∧
      above.node.value.follow? path = some below.node.value := by
  obtain ⟨kids, found, child, isChild, rfl⟩ := steps
  refine ⟨rfl, ?_⟩
  obtain ⟨fields, _, rfl⟩ := children_eq_ok_iff.mp found
  obtain ⟨name, _, held⟩ := List.mem_flatMap.mp isChild
  exact ⟨name, exists_steps_of_mem_field held⟩

/-- Two visits below the root of a document whose nodes have one position are the same visit. The
induction takes the last step off both: it goes along a field path, by which their parents have one
position too. -/
theorem visit_eq_of_position_eq {root : DocumentNode} (atRoot : root.position = [])
    {left right : Visit DocumentNode} (leftLeads : Visit.Leads schema (.root root) left)
    (rightLeads : Visit.Leads schema (.root root) right)
    (same : left.node.position = right.node.position) : left = right := by
  induction leftLeads generalizing right with
  | refl =>
      cases rightLeads with
      | refl => rfl
      | tail _ steps =>
          obtain ⟨_, name, path, isPath, position, _⟩ := steps.exists_steps
          exact absurd (position.symm.trans (same.symm.trans atRoot)) (isPath.append_ne_nil _)
  | @tail above below _ leftSteps inductionHypothesis =>
      obtain ⟨leftAncestry, name, path, isPath, position, value⟩ := leftSteps.exists_steps
      cases rightLeads with
      | refl => exact absurd (position.symm.trans (same.trans atRoot)) (isPath.append_ne_nil _)
      | tail rightLeads rightSteps =>
          obtain ⟨rightAncestry, otherName, otherPath, isOtherPath, otherPosition, otherValue⟩ :=
            rightSteps.exists_steps
          have joined := position.symm.trans (same.trans otherPosition)
          obtain ⟨parentPosition, rfl⟩ := isPath.append_inj isOtherPath joined
          obtain rfl := inductionHypothesis rightLeads parentPosition
          have sameAncestry := leftAncestry.trans rightAncestry.symm
          have sameValue := Option.some.inj (value.symm.trans otherValue)
          obtain ⟨⟨leftPosition, leftValue⟩, leftAbove⟩ := below
          obtain ⟨⟨rightPosition, rightValue⟩, rightAbove⟩ := right
          cases sameAncestry
          cases sameValue
          cases same
          rfl

/-- The nodes of a document are told apart, whatever fields hold children. -/
theorem unambiguous_of_root? {document : Json} {root : DocumentNode}
    (isRoot : root? document = some root) (schema : Schema DocumentNode) :
    Unambiguous schema root := by
  have atRoot : root.position = [] := by rw [eq_of_root? isRoot]
  have visit_eq {left right : Visit DocumentNode}
      (leftMember : left ∈ (visits schema (.root root)).state)
      (rightMember : right ∈ (visits schema (.root root)).state)
      (same : left.node.position = right.node.position) : left = right :=
    visit_eq_of_position_eq atRoot (leads_of_mem_visits leftMember)
      (leads_of_mem_visits rightMember) same
  constructor
  · intro node above other member otherMember
    exact congrArg Visit.ancestry (visit_eq member otherMember rfl)
  · intro left right leftMember rightMember
    constructor
    · intro same
      exact congrArg Visit.node (visit_eq leftMember rightMember (beq_iff_eq.mp same))
    · intro same
      exact beq_iff_eq.mpr (congrArg position same)
  · intro parent name items node i j _ held atPlace atOther
    have joined := (eq_of_getElem?_field held atPlace).1.symm.trans
      (eq_of_getElem?_field held atOther).1
    have ends := congrArg List.getLast? joined
    simpa using ends

end SyntaxQuery
