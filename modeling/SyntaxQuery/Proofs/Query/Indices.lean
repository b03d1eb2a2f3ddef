import SyntaxQuery.Proofs.Query.ListedNodes

/-!
Contract: the indices at which a node is found in a list, counted from either end.

A node of a document is at one place of one list (`DocumentNode.test_place_iff_of_listed`), so one
index from the front and one from the back name it, and together they exceed the length of the list
by one. A node that a field holds alone, and the root, have no index.

Does not own: what a node must match besides.
-/

namespace SyntaxQuery

/-! ## Indices and places -/

theorem difference?_eq_some_iff {whole amount rest : Nat} :
    difference? whole amount = some rest ↔ whole = rest + amount := by
  rw [difference?, Option.ite_none_right_eq_some, Option.some.injEq]
  omega

/-- The difference of two words, if their subtraction does not overflow. -/
theorem difference?_toNat {width : Nat} (whole amount : BitVec width) :
    difference? whole.toNat amount.toNat =
      if whole.usubOverflow amount then none else some (whole - amount).toNat := by
  unfold difference? BitVec.usubOverflow
  by_cases small : amount.toNat ≤ whole.toNat
  · rw [if_pos small, BitVec.toNat_sub_of_le (BitVec.le_def.mpr small)]
    simp [Nat.not_lt.mpr small]
  · rw [if_neg small]
    simp [Nat.lt_of_not_le small]

namespace Edge

theorem place?_first_iff {index length place : Nat} :
    first.place? index length = some place ↔ index = place + 1 :=
  difference?_eq_some_iff

theorem place?_last_iff {index length place : Nat} (inBounds : place < length) :
    last.place? index length = some place ↔ index = length - place := by
  rw [place?, difference?_eq_some_iff]
  omega

end Edge

/-! ## Tests of a place -/

theorem ToldApart.test_place_iff {ν : Type} [SyntaxNode ν] {schema : Schema ν} {parent node : ν}
    (apart : ToldApart schema parent node) {edge : Edge} {index : Nat} {subject : Bool}
    {above : List ν} :
    Selector.test schema (.place edge index none subject) node (parent :: above) = true ↔
      ∃ items, HoldsList schema parent items ∧ ∃ place, items[place]? = some (.node node) ∧
        edge.place? index items.length = some place :=
  apart.standsAt_iff (edge.place? index) above

namespace DocumentNode

variable {schema : Schema DocumentNode} {parent node : DocumentNode} {above : List DocumentNode}
  {edge : Edge} {index : Nat} {subject : Bool}

/-- The list in which a node stands is the only one that a test of its place looks at. -/
theorem test_place_iff_of_listed (apart : ToldApart schema parent node)
    {items : List (Value DocumentNode)} {place : Nat} (holds : HoldsList schema parent items)
    (atPlace : items[place]? = some (.node node)) :
    Selector.test schema (.place edge index none subject) node (parent :: above) = true ↔
      edge.place? index items.length = some place := by
  rw [apart.test_place_iff]
  constructor
  · rintro ⟨others, otherHolds, otherPlace, atOther, found⟩
    obtain ⟨rfl, rfl⟩ := list_and_place_eq holds otherHolds atPlace atOther
    exact found
  · exact fun found => ⟨items, holds, place, atPlace, found⟩

theorem test_place_eq_false (apart : ToldApart schema parent node)
    (notListed : ¬ IsListed schema parent node) :
    Selector.test schema (.place edge index none subject) node (parent :: above) = false := by
  rw [← Bool.not_eq_true, apart.test_place_iff]
  rintro ⟨items, holds, place, atPlace, _⟩
  exact notListed ⟨items, holds, List.mem_of_getElem? atPlace⟩

end DocumentNode

/-- The indices of the nodes that a traversal of a document enters. A node at a place of a list is
found at one index from either end, a node that a field holds alone and the root at none. The places
are reckoned within machine words: where a subtraction would overflow there is no place. -/
theorem indices_of_entered (document : Json) (root : DocumentNode) (schema : Schema DocumentNode)
    (isRoot : DocumentNode.root? document = some root) :
    (∀ node parent above, ⟨node, parent :: above⟩ ∈ (visits schema (.root root)).state →
      (∀ items place, HoldsList schema parent items → items[place]? = some (.node node) →
        place + 1 + (items.length - place) = items.length + 1 ∧ ∀ index subject,
          (Selector.test schema (.place .first index none subject) node (parent :: above) = true ↔
            index = place + 1) ∧
          (Selector.test schema (.place .last index none subject) node (parent :: above) = true ↔
            index = items.length - place)) ∧
      ∀ fields name, schema parent = .ok fields → name ∈ fields → parent.field name = .node node →
        ∀ edge index subject,
          Selector.test schema (.place edge index none subject) node (parent :: above) = false) ∧
    (∀ above, ⟨root, above⟩ ∈ (visits schema (.root root)).state → ∀ edge index subject,
      Selector.test schema (.place edge index none subject) root above = false) ∧
    ∀ index length : BitVec 64,
      Edge.first.place? index.toNat length.toNat =
        (if index.usubOverflow 1 then none else some (index - 1).toNat) ∧
      Edge.last.place? index.toNat length.toNat =
        if length.usubOverflow index then none else some (length - index).toNat := by
  have isTree := DocumentNode.isListedTree document
  have rootStands : root.StandsIn document := by
    rw [DocumentNode.eq_of_root? isRoot]
    rfl
  refine ⟨?_, ?_, ?_⟩
  · intro node parent above member
    have apart : ToldApart schema parent node :=
      isTree.toldApart (isTree.holds_of_mem_visits rootStands (mem_visits_parent member))
        (isTree.holds_of_mem_visits rootStands member)
    constructor
    · intro items place holds atPlace
      have inBounds := (List.getElem?_eq_some_iff.mp atPlace).1
      refine ⟨by omega, fun index subject => ⟨?_, ?_⟩⟩
      · rw [DocumentNode.test_place_iff_of_listed apart holds atPlace, Edge.place?_first_iff]
      · rw [DocumentNode.test_place_iff_of_listed apart holds atPlace,
          Edge.place?_last_iff inBounds]
    · intro fields name _ _ held edge index subject
      exact DocumentNode.test_place_eq_false apart
        (DocumentNode.not_isListed_of_field_eq_node held)
  · intro above member edge index subject
    have isFirst := mem_visits_self schema (.root root)
    rw [(unambiguous_of_root? isRoot schema).ancestry_eq member isFirst]
    rfl
  · intro index length
    exact ⟨difference?_toNat index 1, difference?_toNat length index⟩

/-- A call of a name whose second argument is there and whose first one is not. -/
def gappedCall : Json :=
  .object [("type", .string "CallExpression"), ("callee", .object [("type", .string "Identifier")]),
    ("arguments", .array [.null, .object [("type", .string "Literal")]])]

/-- The argument is the second from the front and the first from the back; the callee and the call
have no index. -/
theorem indices_in_gappedCall :
    DocumentNode.root? gappedCall = some ⟨[], gappedCall⟩ ∧
    (∀ index subject,
      (Selector.test DocumentSchema.standard.childFields (.place .first index none subject)
          ⟨[.member "arguments", .element 1], .object [("type", .string "Literal")]⟩
          [⟨[], gappedCall⟩] = true ↔ index = 2) ∧
      (Selector.test DocumentSchema.standard.childFields (.place .last index none subject)
          ⟨[.member "arguments", .element 1], .object [("type", .string "Literal")]⟩
          [⟨[], gappedCall⟩] = true ↔ index = 1)) ∧
    (∀ edge index subject,
      Selector.test DocumentSchema.standard.childFields (.place edge index none subject)
        ⟨[.member "callee"], .object [("type", .string "Identifier")]⟩ [⟨[], gappedCall⟩] =
          false) ∧
    ∀ edge index subject,
      Selector.test DocumentSchema.standard.childFields (.place edge index none subject)
        ⟨[], gappedCall⟩ [] = false := by
  let call : DocumentNode := ⟨[], gappedCall⟩
  let callee : DocumentNode := ⟨[.member "callee"], .object [("type", .string "Identifier")]⟩
  let argument : DocumentNode :=
    ⟨[.member "arguments", .element 1], .object [("type", .string "Literal")]⟩
  let schema := DocumentSchema.standard.childFields
  have visited : visits schema (.root call) =
      ⟨[⟨call, []⟩, ⟨callee, [call]⟩, ⟨argument, [call]⟩], none⟩ :=
    visits_of_leaves [callee, argument] rfl (by
      intro child isChild
      rcases List.mem_pair.mp isChild with rfl | rfl <;> rfl)
  have calleeMember : ⟨callee, [call]⟩ ∈ (visits schema (.root call)).state := by
    rw [visited]
    exact List.mem_cons_of_mem _ List.mem_cons_self
  have argumentMember : ⟨argument, [call]⟩ ∈ (visits schema (.root call)).state := by
    rw [visited]
    exact List.mem_cons_of_mem _ (List.mem_cons_of_mem _ List.mem_cons_self)
  have holds : HoldsList schema call [.null, .node argument] :=
    ⟨["callee", "arguments"], rfl, "arguments", by decide, rfl⟩
  obtain ⟨entered, atRoot, _⟩ := indices_of_entered gappedCall call schema rfl
  exact ⟨rfl, ((entered argument call [] argumentMember).1 _ 1 holds rfl).2,
    (entered callee call [] calleeMember).2 ["callee", "arguments"] "callee" rfl (by decide) rfl,
    atRoot [] (mem_visits_self schema (.root call))⟩

end SyntaxQuery
