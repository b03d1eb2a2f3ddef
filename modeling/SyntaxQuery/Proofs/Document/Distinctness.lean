import SyntaxQuery.Document.Schema
import SyntaxQuery.Proofs.Document.Positions
import SyntaxQuery.Proofs.Json.Keys
import SyntaxQuery.Proofs.Traversal.Distinctness

/-!
Contract: traversals of documents that enter no position twice.

Different fields of a record, and different elements of a list, hold nodes at different positions.
So a schema that names each field once lists no child twice, and a traversal under it enters each
position at most once (`nodup_positions`). Keys have to be distinct where the fields are those of
the record itself.

Does not own: schemas that come from settings.
-/

namespace SyntaxQuery

namespace Json

theorem KeysDistinct.of_member? {record value : Json} {key : String}
    (distinct : record.KeysDistinct) (found : record.member? key = some value) :
    value.KeysDistinct := by
  cases record with
  | object members =>
      have values := (keysDistinct_object_iff.mp distinct).2
      clear distinct
      replace found : lookup? key members = some value := found
      induction members with
      | nil => cases found
      | cons first rest inductionHypothesis =>
          obtain ⟨firstDistinct, restDistinct⟩ := List.forall_mem_cons.mp values
          rw [lookup?] at found
          split at found
          · cases found
            exact firstDistinct
          · exact inductionHypothesis restDistinct found
  | _ => cases found

theorem KeysDistinct.of_element? {list value : Json} {index : Nat} (distinct : list.KeysDistinct)
    (found : list.element? index = some value) : value.KeysDistinct := by
  cases list with
  | array items => exact keysDistinct_array_iff.mp distinct value (List.mem_of_getElem? found)
  | _ => cases found

/-- Where the keys of a value are distinct, so are those of every value inside it. -/
theorem KeysDistinct.follow? {value inner : Json} {steps : List Step}
    (distinct : value.KeysDistinct) (found : value.follow? steps = some inner) :
    inner.KeysDistinct := by
  induction steps generalizing value with
  | nil =>
      cases found
      exact distinct
  | cons step rest inductionHypothesis =>
      cases step with
      | member key =>
          obtain ⟨held, isMember, onward⟩ := Option.bind_eq_some_iff.mp found
          exact inductionHypothesis (distinct.of_member? isMember) onward
      | element index =>
          obtain ⟨held, isElement, onward⟩ := Option.bind_eq_some_iff.mp found
          exact inductionHypothesis (distinct.of_element? isElement) onward

end Json

namespace DocumentNode

/-! ## Children at different positions -/

/-- A node among the elements of a list stands at an index no smaller than where the list begins. -/
theorem exists_index_of_mem_holdingItems {position : List Step} {start : Nat} {items : List Json}
    {child : DocumentNode}
    (held : child ∈ (holdingItems position start items).filterMap Value.node?) :
    ∃ index, start ≤ index ∧ child.position = position ++ [.element index] := by
  obtain ⟨item, isItem, isNode⟩ := List.mem_filterMap.mp held
  obtain ⟨place, atPlace⟩ := List.mem_iff_getElem?.mp isItem
  rw [getElem?_holdingItems, Option.map_eq_some_iff] at atPlace
  obtain ⟨inside, _, rfl⟩ := atPlace
  cases insideHeld : holding (position ++ [.element (start + place)]) inside with
  | node node =>
      rw [insideHeld] at isNode
      cases isNode
      rw [eq_of_holding_eq_node insideHeld]
      exact ⟨start + place, Nat.le_add_right start place, rfl⟩
  | _ =>
      rw [insideHeld] at isNode
      cases isNode

theorem nodup_nodes_holdingItems (position : List Step) (start : Nat) (items : List Json) :
    ((holdingItems position start items).filterMap Value.node?).Nodup := by
  induction items generalizing start with
  | nil => exact List.nodup_nil
  | cons item rest inductionHypothesis =>
      rw [holdingItems]
      cases first : holding (position ++ [.element start]) item with
      | node node =>
          refine List.nodup_cons.mpr ⟨fun repeated => ?_, inductionHypothesis (start + 1)⟩
          -- The later elements stand at larger indices.
          obtain ⟨index, later, samePosition⟩ := exists_index_of_mem_holdingItems repeated
          rw [eq_of_holding_eq_node first] at samePosition
          cases List.append_cancel_left samePosition
          exact Nat.not_succ_le_self start later
      | _ => exact inductionHypothesis (start + 1)

theorem nodup_nodes_field (node : DocumentNode) (name : String) :
    (node.field name).nodes.Nodup := by
  cases held : node.field name with
  | list items =>
      obtain ⟨values, _, rfl⟩ := eq_holdingItems_of_field_eq_list held
      exact nodup_nodes_holdingItems _ _ _
  | node child => exact List.nodup_singleton child
  | _ => exact List.nodup_nil

/-- Different fields hold different nodes. -/
theorem disjoint_nodes_field (node : DocumentNode) {name otherName : String}
    (differ : name ≠ otherName) :
    List.Disjoint (node.field name).nodes (node.field otherName).nodes := by
  intro child held otherHeld
  obtain ⟨steps, isPath, position, _⟩ := exists_steps_of_mem_field held
  obtain ⟨otherSteps, isOtherPath, otherPosition, _⟩ := exists_steps_of_mem_field otherHeld
  obtain ⟨_, rfl⟩ := isPath.append_inj isOtherPath (position.symm.trans otherPosition)
  exact differ (isPath.name_eq isOtherPath)

/-- A schema that names each field of a node once lists each of its children once. -/
theorem nodup_children {schema : Schema DocumentNode} {node : DocumentNode}
    (namesOnce : ∀ fields, schema node = .ok fields → fields.Nodup) {kids : List DocumentNode}
    (found : children schema node = .ok kids) : kids.Nodup := by
  obtain ⟨fields, accepted, rfl⟩ := children_eq_ok_iff.mp found
  refine List.nodup_flatMap.mpr ⟨fun name _ => nodup_nodes_field node name, ?_⟩
  exact (namesOnce fields accepted).imp (disjoint_nodes_field node)

end DocumentNode

/-! ## Schemas that name each field once -/

/-- No entry of the table names a field twice. -/
def DocumentSchema.NamesOnce (schema : DocumentSchema) : Prop :=
  ∀ entry ∈ schema.visitorKeys, entry.2.Nodup

instance (schema : DocumentSchema) : Decidable schema.NamesOnce :=
  inferInstanceAs (Decidable (∀ entry ∈ schema.visitorKeys, entry.2.Nodup))

theorem DocumentSchema.namesOnce_standard : standard.NamesOnce := by
  decide

/-- The fields of a record that may hold children are among its keys, each once. -/
theorem DocumentSchema.nodup_heldFields {record : Json} (distinct : record.KeysDistinct) :
    (heldFields record).Nodup := by
  cases record with
  | object members =>
      exact (Json.keysDistinct_object_iff.mp distinct).1.sublist (List.filter_sublist.map Prod.fst)
  | _ => exact List.nodup_nil

/-- A node's child fields are named once, by the table or by the fallback. -/
theorem DocumentSchema.NamesOnce.nodup_childFields {schema : DocumentSchema}
    (namesOnce : schema.NamesOnce) {node : DocumentNode} (distinct : node.value.KeysDistinct)
    {fields : List String} (accepted : schema.childFields node = .ok fields) : fields.Nodup := by
  unfold childFields at accepted
  split at accepted
  · next listed isListed =>
      cases accepted
      obtain ⟨before, after, isSplit, _⟩ := List.lookup_eq_some_iff.mp isListed
      refine namesOnce (node.kind, fields) ?_
      rw [isSplit]
      exact List.mem_append_right before List.mem_cons_self
  · split at accepted
    · cases accepted
    · cases accepted
      exact nodup_heldFields distinct

/-! ## Traversals -/

/-- The positions of the nodes that a traversal of a document enters are without repetition, if the
schema names each field of a node with distinct keys once. -/
theorem nodup_positions {document : Json} {root : DocumentNode} {schema : Schema DocumentNode}
    (isRoot : DocumentNode.root? document = some root) (distinct : document.KeysDistinct)
    (namesOnce : ∀ node : DocumentNode, node.value.KeysDistinct →
      ∀ fields, schema node = .ok fields → fields.Nodup) :
    ((visits schema (.root root)).state.map fun visit => visit.node.position).Nodup := by
  obtain rfl := DocumentNode.eq_of_root? isRoot
  have distinctBelow {visit : Visit DocumentNode}
      (leads : Visit.Leads schema (.root ⟨[], document⟩) visit) :
      visit.node.value.KeysDistinct := by
    induction leads with
    | refl => exact distinct
    | tail _ steps inductionHypothesis =>
        obtain ⟨_, _, path, _, _, value⟩ := steps.exists_steps
        exact inductionHypothesis.follow? value
  have listsOnce (visit : Visit DocumentNode)
      (leads : Visit.Leads schema (.root ⟨[], document⟩) visit) (kids : List DocumentNode)
      (found : children schema visit.node = .ok kids) : kids.Nodup :=
    DocumentNode.nodup_children (namesOnce visit.node (distinctBelow leads)) found
  refine (nodup_visits listsOnce).map_on fun left leftMember right rightMember same => ?_
  exact visit_eq_of_position_eq rfl (leads_of_mem_visits leftMember)
    (leads_of_mem_visits rightMember) same

end SyntaxQuery
