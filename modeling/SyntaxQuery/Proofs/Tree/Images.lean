import Mathlib.Logic.Basic
import SyntaxQuery.Query.Path

/-!
Contract: values and paths of a tree seen through a map of its nodes.

A map takes the nodes of one tree to nodes of another, or of the same. What a value shows besides
its records does not change (`Value.text_map`), and if the map keeps kinds, places and the fields of
some names, then paths through fields of these names lead to the images of what they led to.

Does not own: which fields hold children.
-/

namespace SyntaxQuery

variable {ν μ : Type}

namespace Value

mutual

/-- The value with the image of each record in the record's place. -/
def map (image : ν → μ) : Value ν → Value μ
  | .absent => .absent
  | .null => .null
  | .bool value => .bool value
  | .number value => .number value
  | .string value => .string value
  | .node held => .node (image held)
  | .object held => .object (image held)
  | .list items => .list (mapItems image items)

def mapItems (image : ν → μ) : List (Value ν) → List (Value μ)
  | [] => []
  | item :: rest => map image item :: mapItems image rest

end

theorem mapItems_eq_map (image : ν → μ) (items : List (Value ν)) :
    mapItems image items = items.map (map image) := by
  induction items with
  | nil => rfl
  | cons item rest inductionHypothesis => rw [mapItems, inductionHypothesis, List.map_cons]

@[simp] theorem map_list (image : ν → μ) (items : List (Value ν)) :
    (Value.list items).map image = .list (items.map (map image)) := by
  rw [map, mapItems_eq_map]

variable (image : ν → μ)

/-! ## What a value shows -/

@[simp] theorem isPresent_map (value : Value ν) :
    (value.map image).isPresent = value.isPresent := by
  cases value <;> rfl

@[simp] theorem node?_map (value : Value ν) : (value.map image).node? = value.node?.map image := by
  cases value <;> rfl

@[simp] theorem record?_map (value : Value ν) :
    (value.map image).record? = value.record?.map image := by
  cases value <;> rfl

@[simp] theorem list?_map (value : Value ν) :
    (value.map image).list? = value.list?.map (List.map (map image)) := by
  cases value with
  | list items => rw [map_list]; rfl
  | _ => rfl

@[simp] theorem nodes_map (value : Value ν) : (value.map image).nodes = value.nodes.map image := by
  cases value with
  | list items =>
      rw [map_list, nodes, nodes, List.filterMap_map, List.map_filterMap]
      exact congrArg (List.filterMap · items) (funext (node?_map image))
  | _ => rfl

@[simp] theorem typeName_map (value : Value ν) : (value.map image).typeName = value.typeName := by
  cases value <;> rfl

mutual

@[simp] theorem text_map : ∀ value : Value ν, (value.map image).text = value.text
  | .absent => rfl
  | .null => rfl
  | .bool _ => rfl
  | .number _ => rfl
  | .string _ => rfl
  | .node _ => rfl
  | .object _ => rfl
  | .list items => by rw [map_list, text, text, itemTexts_map items]

theorem itemTexts_map : ∀ items : List (Value ν),
    itemTexts (items.map (map image)) = itemTexts items
  | [] => rfl
  | .absent :: rest => congrArg ("" :: ·) (itemTexts_map rest)
  | .null :: rest => congrArg ("" :: ·) (itemTexts_map rest)
  | .bool value :: rest => congrArg₂ List.cons (text_map (.bool value)) (itemTexts_map rest)
  | .number value :: rest => congrArg₂ List.cons (text_map (.number value)) (itemTexts_map rest)
  | .string value :: rest => congrArg₂ List.cons (text_map (.string value)) (itemTexts_map rest)
  | .node held :: rest => congrArg₂ List.cons (text_map (.node held)) (itemTexts_map rest)
  | .object held :: rest => congrArg₂ List.cons (text_map (.object held)) (itemTexts_map rest)
  | .list items :: rest => congrArg₂ List.cons (text_map (.list items)) (itemTexts_map rest)

end

@[simp] theorem toPrimitive_map (value : Value ν) :
    (value.map image).toPrimitive = value.toPrimitive := by
  cases value with
  | list items => exact congrArg Primitive.string (text_map image (.list items))
  | _ => rfl

mutual

/-- Nothing changes where each node is its own image. -/
theorem map_id : ∀ value : Value ν, value.map id = value
  | .absent => rfl
  | .null => rfl
  | .bool _ => rfl
  | .number _ => rfl
  | .string _ => rfl
  | .node _ => rfl
  | .object _ => rfl
  | .list items => congrArg Value.list (mapItems_id items)

theorem mapItems_id : ∀ items : List (Value ν), mapItems id items = items
  | [] => rfl
  | item :: rest => congrArg₂ List.cons (map_id item) (mapItems_id rest)

end

end Value

variable [SyntaxNode ν] [SyntaxNode μ]

/-! ## Paths -/

/-- A map of nodes keeps their kinds, tells the same handles apart, and takes what fields of the
given names hold to what these fields of the image hold. -/
structure Preserves (Known : String → Prop) (image : ν → μ) : Prop where
  kind_eq : ∀ node, SyntaxNode.kind (image node) = SyntaxNode.kind node
  same_eq : ∀ left right, SyntaxNode.same (image left) (image right) = SyntaxNode.same left right
  field_eq : ∀ node name, Known name →
    SyntaxNode.field (image node) name = (SyntaxNode.field node name).map image

namespace Preserves

variable {Known : String → Prop} {image : ν → μ} (preserves : Preserves Known image)

include preserves

theorem step_map {segment : String} (known : Known segment) (value : Value ν) :
    (value.map image).step segment = (value.step segment).map image := by
  cases value with
  | node held => exact preserves.field_eq held segment known
  | object held => exact preserves.field_eq held segment known
  | list items =>
      rw [Value.map_list, Value.step, Value.step, List.length_map]
      split
      · rfl
      · -- An index leads to the image of an element, or nowhere on both sides.
        cases indexOfSegment? segment with
        | none => rfl
        | some index =>
            simp only [Option.bind_some, List.getElem?_map]
            cases items[index]? <;> rfl
  | string text =>
      rw [Value.map, Value.step, Value.step]
      split <;> rfl
  | _ => rfl

theorem follow_map {segments : List String} (known : ∀ segment ∈ segments, Known segment)
    (value : Value ν) :
    (value.map image).follow segments = (value.follow segments).map image := by
  induction segments generalizing value with
  | nil => rfl
  | cons segment rest inductionHypothesis =>
      obtain ⟨first, later⟩ := List.forall_mem_cons.mp known
      rw [Value.follow, Value.follow, Value.isPresent_map, preserves.step_map first,
        inductionHypothesis later]
      split <;> rfl

theorem resolve_image {path : String} (known : ∀ segment ∈ Text.segments path, Known segment)
    (node : ν) : resolve (image node) path = (resolve node path).map image :=
  preserves.follow_map known (.node node)

/-- A search along known fields finds the image of a node where it found the node. -/
theorem leadsTo_map {segments : List String} (known : ∀ segment ∈ segments, Known segment)
    (node : ν) (value : Value ν) :
    leadsTo (image node) segments (value.map image) = leadsTo node segments value := by
  induction segments generalizing value with
  | nil =>
      rw [leadsTo, leadsTo, Value.record?_map, Option.any_map]
      congr 1
      exact funext fun record => preserves.same_eq record node
  | cons segment rest inductionHypothesis =>
      obtain ⟨first, later⟩ := List.forall_mem_cons.mp known
      have fromAny (held : Value ν) :
          leadsFromAny (leadsTo (image node) rest) (held.map image) =
            leadsFromAny (leadsTo node rest) held := by
        cases held with
        | list items =>
            rw [Value.map_list, leadsFromAny, leadsFromAny, List.any_map]
            congr 1
            exact funext (inductionHypothesis later)
        | _ => exact inductionHypothesis later _
      rw [leadsTo, leadsTo, Value.record?_map]
      cases value.record? with
      | none => rfl
      | some record =>
          show leadsFromAny _ (SyntaxNode.field (image record) segment) = _
          rw [preserves.field_eq record segment first]
          exact fromAny _

end Preserves

end SyntaxQuery
