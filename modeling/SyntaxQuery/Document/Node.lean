import SyntaxQuery.Json.Basic
import SyntaxQuery.Tree.Node

/-!
Contract: JSON documents as syntax trees.

Owns:
- the positions of values in a document and the handles to records in it;
- which records are syntax nodes, what their fields hold, and where they lie in the source;
- the refusal of a document whose root is no syntax node.

Does not own: which fields hold children.
-/

namespace SyntaxQuery

namespace Json

mutual

/-- The number of values in a value, itself included. -/
def size : Json → Nat
  | .array items => 1 + itemsSize items
  | .object members => 1 + membersSize members
  | _ => 1

/-- The number of values in the elements of an array. -/
def itemsSize : List Json → Nat
  | [] => 0
  | item :: rest => size item + itemsSize rest

/-- The number of values in the members of an object. -/
def membersSize : List (String × Json) → Nat
  | [] => 0
  | (_, value) :: rest => size value + membersSize rest

end

/-- A value under a key is no larger than the members together. -/
theorem size_le_membersSize {key : String} {value : Json} {members : List (String × Json)}
    (found : lookup? key members = some value) : value.size ≤ membersSize members := by
  induction members with
  | nil => cases found
  | cons first rest inductionHypothesis =>
      obtain ⟨name, held⟩ := first
      simp only [lookup?] at found
      simp only [membersSize]
      split at found
      · cases found; omega
      · have smaller := inductionHypothesis found
        omega

/-- A value under a key is smaller than the object. -/
theorem size_lt_of_member {key : String} {record value : Json}
    (found : record.member? key = some value) : value.size < record.size := by
  cases record with
  | object members =>
      have smaller := size_le_membersSize found
      simp only [size]
      omega
  | _ => cases found

/-- An element is no larger than the elements together. -/
theorem size_le_itemsSize {item : Json} {items : List Json} (member : item ∈ items) :
    item.size ≤ itemsSize items := by
  induction items with
  | nil => cases member
  | cons first rest inductionHypothesis =>
      simp only [itemsSize]
      rcases List.mem_cons.1 member with same | later
      · subst same; omega
      · have smaller := inductionHypothesis later
        omega

/-- A record with a string under `type` is a syntax node. -/
def isSyntaxNode (value : Json) : Bool :=
  match value.member? "type" with
  | some (.string _) => true
  | _ => false

end Json

/-- A step from a value to one inside it. -/
inductive Step where
  | member (key : String)
  | element (index : Nat)
deriving DecidableEq, Repr

/-- A handle to a record of a document: the steps to it from the root, and what stands there. Two
handles into one document denote the same record exactly when their positions agree. -/
structure DocumentNode where
  position : List Step
  value : Json

namespace DocumentNode

/-- The type tag, empty for a record that is no syntax node. -/
def kind (node : DocumentNode) : String :=
  ((node.value.member? "type").bind Json.string?).getD ""

mutual

/-- What a field holds, given the value in the document and its position. -/
def holding (position : List Step) : Json → Value DocumentNode
  | .null => .null
  | .bool value => .bool value
  | .number value => .number value.toFloat
  | .string value => .string value
  | .array items => .list (holdingItems position 0 items)
  | .object members =>
      if (Json.object members).isSyntaxNode then .node ⟨position, .object members⟩
      else .object ⟨position, .object members⟩

/-- What the elements of a list hold, from an index on. -/
def holdingItems (position : List Step) : Nat → List Json → List (Value DocumentNode)
  | _, [] => []
  | index, item :: rest =>
      holding (position ++ [.element index]) item :: holdingItems position (index + 1) rest

end

/-- What a field of a record holds. -/
def field (node : DocumentNode) (name : String) : Value DocumentNode :=
  match node.value.member? name with
  | some value => holding (node.position ++ [.member name]) value
  | none => .absent

/-- The byte range of a record: the two numbers under `range`, or those under `start` and `end` where
`range` is no pair. -/
def span? (node : DocumentNode) : Option (Nat × Nat) :=
  match node.value.member? "range" with
  | some (.array [start, stop]) => do some (← start.nat?, ← stop.nat?)
  | _ => do
      let start ← (← node.value.member? "start").nat?
      let stop ← (← node.value.member? "end").nat?
      some (start, stop)

/-- The node that a value holds directly is the value itself. -/
theorem value_of_node?_holding {position : List Step} {value : Json} {child : DocumentNode}
    (held : (holding position value).node? = some child) : child.value = value := by
  cases value with
  | object members =>
      simp only [holding] at held
      split at held
      · cases held; rfl
      · cases held
  | _ => simp [holding, Value.node?] at held

/-- The nodes among the elements of a list are values of the list. -/
theorem value_mem_of_mem_holdingItems {position : List Step} {index : Nat} {items : List Json}
    {child : DocumentNode} (held : child ∈ (holdingItems position index items).filterMap Value.node?) :
    child.value ∈ items := by
  induction items generalizing index with
  | nil => simp [holdingItems] at held
  | cons item rest inductionHypothesis =>
      simp only [holdingItems, List.filterMap_cons] at held
      split at held
      · exact List.mem_cons_of_mem _ (inductionHypothesis held)
      · next node first =>
          rcases List.mem_cons.1 held with same | later
          · subst same
            exact List.mem_cons.2 (.inl (value_of_node?_holding first))
          · exact List.mem_cons_of_mem _ (inductionHypothesis later)

/-- A node that a value holds is no larger than the value. -/
theorem size_le_of_mem_holding {position : List Step} {value : Json} {child : DocumentNode}
    (held : child ∈ (holding position value).nodes) : child.value.size ≤ value.size := by
  cases value with
  | object members =>
      simp only [holding] at held
      split at held
      · simp only [Value.nodes, List.mem_singleton] at held
        subst held; exact Nat.le_refl _
      · simp [Value.nodes] at held
  | array items =>
      simp only [holding, Value.nodes] at held
      have smaller := Json.size_le_itemsSize (value_mem_of_mem_holdingItems held)
      simp only [Json.size]
      omega
  | _ => simp [holding, Value.nodes] at held

/-- A node that a field holds is smaller than the record. -/
theorem size_lt_of_mem_field (node : DocumentNode) (name : String) (child : DocumentNode)
    (held : child ∈ (node.field name).nodes) : child.value.size < node.value.size := by
  unfold field at held
  split at held
  · next value found =>
      exact Nat.lt_of_le_of_lt (size_le_of_mem_holding held) (Json.size_lt_of_member found)
  · simp [Value.nodes] at held

instance : SyntaxNode DocumentNode where
  kind := kind
  field := field
  same left right := left.position == right.position
  span? := span?
  size node := node.value.size
  size_lt_of_mem_field := size_lt_of_mem_field

/-- The handle to the root of a document, which must be a syntax node. -/
def root? (document : Json) : Option DocumentNode :=
  if document.isSyntaxNode then some ⟨[], document⟩ else none

/-- The wording of the refusal of a root that is no syntax node. -/
def rootRefusal : String :=
  "document root is not a syntax node (expected an object with a \"type\" field)"

end DocumentNode

end SyntaxQuery
