import SyntaxQuery.Document.Schema
import SyntaxQuery.Proofs.Document.Positions
import SyntaxQuery.Proofs.Document.Removal
import SyntaxQuery.Proofs.Query.Images

/-!
Contract: what a query of a document does not see.

Without the inert values under a name, a document is an image of itself that no query tells apart
from it, as long as the selector does not name them and they are no type tags (`matchTree_strip`).
So two documents that are equal without these values have the same results.

Owns: what fields hold after the removal, in nodes and as children, and the queries.
Does not own: the removal itself, or images of queries in general.
-/

namespace SyntaxQuery

namespace DocumentNode

/-- The node of the document without the inert values under a name, in the same place. -/
def strip (name : String) (node : DocumentNode) : DocumentNode :=
  ⟨node.position, node.value.without name⟩

variable {name : String}

/-! ## What values hold -/

theorem node?_holding_of_not {position : List Step} {value : Json}
    (notNode : value.isSyntaxNode = false) : (holding position value).node? = none := by
  cases value with
  | object members => rw [holding, notNode]; rfl
  | _ => rfl

/-- No child comes from an inert value. -/
theorem nodes_holding_of_isInert {position : List Step} {value : Json}
    (inert : value.isInert = true) : (holding position value).nodes = [] := by
  cases value with
  | array items =>
      rw [Json.isInert, List.all_eq_true] at inert
      rw [holding, Value.nodes, List.filterMap_eq_nil_iff]
      intro item isItem
      obtain ⟨place, atPlace⟩ := List.mem_iff_getElem?.mp isItem
      rw [getElem?_holdingItems, Option.map_eq_some_iff] at atPlace
      obtain ⟨inside, isInside, rfl⟩ := atPlace
      have notNode := inert inside (List.mem_of_getElem? isInside)
      exact node?_holding_of_not (by rwa [Bool.not_eq_true'] at notNode)
  | object members =>
      have notNode : (!(Json.object members).isSyntaxNode) = true := inert
      rw [Bool.not_eq_true'] at notNode
      rw [holding, notNode]
      rfl
  | _ => rfl

mutual

theorem holding_without (notType : name ≠ "type") (position : List Step) : ∀ value : Json,
    holding position (value.without name) = (holding position value).map (strip name)
  | .null => rfl
  | .bool _ => rfl
  | .number _ => rfl
  | .string _ => rfl
  | .array items => by
      rw [Json.without, holding, holding, Value.map_list,
        holdingItems_without notType position 0 items]
  | .object members => by
      have sameTag := Json.isSyntaxNode_without notType (.object members)
      rw [Json.without] at sameTag ⊢
      rw [holding, holding, sameTag]
      split <;> rfl

theorem holdingItems_without (notType : name ≠ "type") (position : List Step) :
    ∀ (index : Nat) (items : List Json),
      holdingItems position index (Json.withoutItems name items) =
        (holdingItems position index items).map (Value.map (strip name))
  | _, [] => rfl
  | index, item :: rest => by
      rw [Json.withoutItems, holdingItems, holdingItems, List.map_cons,
        holding_without notType _ item, holdingItems_without notType position (index + 1) rest]

end

variable (notType : name ≠ "type")

include notType

theorem kind_strip (node : DocumentNode) : (node.strip name).kind = node.kind := by
  rw [kind, kind, strip, Json.tag_without notType]

/-- Other fields hold what they held, seen without the inert values under the name. -/
theorem field_strip_of_ne {key : String} (other : key ≠ name) (node : DocumentNode) :
    (node.strip name).field key = (node.field key).map (strip name) := by
  unfold field
  rw [strip, Json.member?_without_of_ne other]
  cases node.value.member? key with
  | none => rfl
  | some held => exact holding_without notType _ held

theorem preserves_strip : Preserves (· ≠ name) (strip name) where
  kind_eq := kind_strip notType
  same_eq _ _ := rfl
  field_eq node _ other := field_strip_of_ne notType other node

/-! ## Child fields -/

/-- A field from which children come holds what it held, seen without the inert values under the
name. No field gets children. -/
theorem field_strip (node : DocumentNode) (key : String) :
    (node.strip name).field key = (node.field key).map (strip name) ∨
      (node.strip name).field key = .absent ∧ (node.field key).nodes = [] := by
  by_cases other : key = name
  · rw [other]
    unfold field
    rw [strip, Json.member?_without_self]
    cases node.value.member? name with
    | none => exact .inl rfl
    | some held =>
        cases inert : held.isInert with
        | true =>
            rw [Option.filter_some, inert]
            exact .inr ⟨rfl, nodes_holding_of_isInert inert⟩
        | false =>
            rw [Option.filter_some, inert]
            exact .inl (holding_without notType _ held)
  · exact .inl (field_strip_of_ne notType other node)

/-- Some fields of the node, of which any without children may be left out, hold what they held as
far as there are nodes in it. -/
theorem held_strip (node : DocumentNode) (kept : String → Bool)
    (leftOut : ∀ key, kept key = false → (node.field key).nodes = []) (names : List String) :
    (((names.filter kept).map (node.strip name).field).filter fun value => !value.nodes.isEmpty) =
      ((names.map node.field).filter fun value => !value.nodes.isEmpty).map
        (Value.map (strip name)) := by
  induction names with
  | nil => rfl
  | cons key rest inductionHypothesis =>
      have sameNodes :
          ((node.strip name).field key).nodes = (node.field key).nodes.map (strip name) := by
        rcases field_strip notType node key with same | ⟨gone, none⟩
        · rw [same, Value.nodes_map]
        · rw [gone, none]
          rfl
      cases nodes : (node.field key).nodes with
      | nil =>
          rw [nodes] at sameNodes
          cases isKept : kept key <;>
            simp [isKept, nodes, sameNodes, inductionHypothesis]
      | cons child others =>
          have isKept : kept key = true := by
            by_contra skipped
            rw [leftOut key (Bool.eq_false_iff.mpr skipped)] at nodes
            cases nodes
          have same : (node.strip name).field key = (node.field key).map (strip name) := by
            refine (field_strip notType node key).resolve_right fun gone => ?_
            rw [gone.2] at nodes
            cases nodes
          simp [isKept, same, nodes, inductionHypothesis]

omit notType

theorem heldFields_cons (key : String) (value : Json) (rest : List (String × Json)) :
    DocumentSchema.heldFields (.object ((key, value) :: rest)) =
      if value.array?.isSome || value.isSyntaxNode then
        key :: DocumentSchema.heldFields (.object rest)
      else DocumentSchema.heldFields (.object rest) := by
  unfold DocumentSchema.heldFields
  simp only [List.filter_cons]
  split <;> rfl

/-- The fields of a record that hold a syntax node or a list remain, unless they are dropped. -/
theorem heldFields_withoutMembers (notType : name ≠ "type") (dropped : Bool)
    (members : List (String × Json)) :
    DocumentSchema.heldFields (.object (Json.withoutMembers name dropped members)) =
      (DocumentSchema.heldFields (.object members)).filter fun key =>
        !(dropped && key == name) := by
  induction members with
  | nil => rfl
  | cons first rest inductionHypothesis =>
      obtain ⟨key, value⟩ := first
      have sameArray : (value.without name).array?.isSome = value.array?.isSome := by
        cases value <;> rfl
      have sameTag := Json.isSyntaxNode_without notType value
      rw [Json.withoutMembers, heldFields_cons]
      cases isDropped : dropped && key == name with
      | true =>
          rw [if_pos rfl, inductionHypothesis]
          split
          · rw [List.filter_cons, isDropped]; rfl
          · rfl
      | false =>
          rw [if_neg Bool.false_ne_true, heldFields_cons, sameArray, sameTag, inductionHypothesis]
          split
          · rw [List.filter_cons, isDropped]; rfl
          · rfl

/-- Under a name with an inert value there are no children. -/
theorem nodes_field_of_inertUnder {position : List Step} {members : List (String × Json)}
    (inert : Json.inertUnder name members = true) :
    (field ⟨position, .object members⟩ name).nodes = [] := by
  rw [Json.inertUnder] at inert
  rw [field, Json.member?]
  cases found : Json.lookup? name members with
  | none => rfl
  | some held =>
      rw [found, Option.all_some] at inert
      exact nodes_holding_of_isInert inert

/-- Every schema agrees with itself at a node and at the node without the inert values under the
name. -/
theorem agreesAt_strip (notType : name ≠ "type") (schema : DocumentSchema) (node : DocumentNode) :
    AgreesAt schema.childFields schema.childFields (strip name) node := by
  unfold AgreesAt heldValues DocumentSchema.childFields
  rw [kind_strip notType]
  cases schema.keysOf? node.kind with
  | some fields =>
      have held := held_strip notType node (fun _ => true)
        (fun _ leftOut => by cases leftOut) fields
      rw [List.filter_true] at held
      exact congrArg Except.ok held
  | none =>
      cases schema.fallback with
      | strict => rfl
      | iteration =>
          obtain ⟨position, value⟩ := node
          cases value with
          | object members =>
              simp only [strip, Json.without, heldFields_withoutMembers notType, Except.map]
              refine congrArg Except.ok
                (held_strip notType ⟨position, .object members⟩ _ (fun key leftOut => ?_) _)
              rw [Bool.not_eq_false', Bool.and_eq_true, beq_iff_eq] at leftOut
              rw [leftOut.2]
              exact nodes_field_of_inertUnder leftOut.1
          | _ => rfl

end DocumentNode

/-! ## Queries -/

section Queries

variable {name : String} (notType : name ≠ "type") (schema : DocumentSchema) {selector : Selector}
  (unnamed : name ∉ selector.segments)

include notType unnamed

/-- Without the inert values under a name that the selector does not use, a query reports the same
nodes, seen without them. -/
theorem matchTree_strip (root : DocumentNode) :
    matchTree schema.childFields selector (root.strip name) =
      (matchTree schema.childFields selector root).map (List.map (DocumentNode.strip name)) := by
  refine (DocumentNode.preserves_strip notType).matchTree_image (fun segment named same => ?_)
    fun node _ => DocumentNode.agreesAt_strip notType schema node
  exact unnamed (same ▸ named)

theorem positions_matchTree_strip (root : DocumentNode) :
    (matchTree schema.childFields selector (root.strip name)).map (List.map DocumentNode.position) =
      (matchTree schema.childFields selector root).map (List.map DocumentNode.position) := by
  rw [matchTree_strip notType schema unnamed]
  cases matchTree schema.childFields selector root with
  | error refusal => rfl
  | ok reported =>
      simp only [Except.map, List.map_map]
      rfl

end Queries

/-- Two documents that are equal without the inert values under a name are refused alike or have the
same reports, position by position, for every selector whose paths do not use the name, unless the
name is that of type tags. -/
theorem query_blind_to_inert_field (schema : DocumentSchema) (selector : Selector) (name : String)
    (notType : name ≠ "type") (unnamed : name ∉ selector.segments) (document other : Json)
    (alike : document.without name = other.without name) :
    (DocumentNode.root? document).map (fun root =>
        (matchTree schema.childFields selector root).map (List.map DocumentNode.position)) =
      (DocumentNode.root? other).map fun root =>
        (matchTree schema.childFields selector root).map (List.map DocumentNode.position) := by
  have sameTag : document.isSyntaxNode = other.isSyntaxNode := by
    rw [← Json.isSyntaxNode_without notType, alike, Json.isSyntaxNode_without notType]
  unfold DocumentNode.root?
  rw [sameTag]
  split
  · have sameRoot : DocumentNode.strip name ⟨[], document⟩ = DocumentNode.strip name ⟨[], other⟩ :=
      congrArg (DocumentNode.mk []) alike
    rw [Option.map_some, Option.map_some, ← positions_matchTree_strip notType schema unnamed,
      sameRoot, positions_matchTree_strip notType schema unnamed]
  · rfl

/-- A statement with its place in the source, in two notations. -/
def placedStatement : Json :=
  .object [("type", .string "ExpressionStatement"),
    ("loc", .object [("start", .number (.integer 0)), ("end", .number (.integer 2))]),
    ("expression", .object [("type", .string "Identifier"), ("loc", .null)])]

@[inherit_doc placedStatement]
def rangedStatement : Json :=
  .object [("type", .string "ExpressionStatement"),
    ("expression", .object [("type", .string "Identifier"),
      ("loc", .array [.number (.integer 0), .number (.integer 1)])])]

/-- The places of the statement and its expression are inert. -/
theorem placedStatement_queried_as_rangedStatement :
    "loc" ≠ "type" ∧ "loc" ∉ Selector.segments (.single (.field "expression") false) ∧
      placedStatement.without "loc" = rangedStatement.without "loc" ∧
      (DocumentNode.root? placedStatement).map (fun root =>
          (matchTree DocumentSchema.standard.childFields (.single (.field "expression") false)
            root).map (List.map DocumentNode.position)) =
        (DocumentNode.root? rangedStatement).map fun root =>
          (matchTree DocumentSchema.standard.childFields (.single (.field "expression") false)
            root).map (List.map DocumentNode.position) := by
  have notType : "loc" ≠ "type" := by decide
  have unnamed : "loc" ∉ Selector.segments (.single (.field "expression") false) := by decide
  have alike : placedStatement.without "loc" = rangedStatement.without "loc" := rfl
  exact ⟨notType, unnamed, alike,
    query_blind_to_inert_field .standard _ "loc" notType unnamed _ _ alike⟩

end SyntaxQuery
