import SyntaxQuery.Proofs.Traversal.Identity
import SyntaxQuery.Query.Matching

/-!
Contract: the places of a node in the lists of its parent, and what stands beside it there.

`ToldApart` is what the engine relies on when it looks for a node in the lists of the node's parent.
Under it the two searches beside a node and the test of the node's own place say what they are meant
to say, and a search for either of two selectors finds a partner. Visited nodes of a tree whose
nodes are told apart have the property, and `Searches` collects what follows for them.

Does not own: what is searched for.
-/

namespace SyntaxQuery

variable {ν : Type}

/-! ## Places beside a node -/

/-- The other node is an element of the list. -/
def IsSibling (items : List (Value ν)) (node other : ν) : Prop :=
  .node other ∈ items ∧ other ≠ node

/-- The other node stands directly before or after the node in the list. -/
def IsNeighbour (items : List (Value ν)) (node other : ν) : Prop :=
  ∃ place otherPlace : Nat, items[place]? = some (.node node) ∧
    items[otherPlace]? = some (.node other) ∧
    (otherPlace = place + 1 ∨ place = otherPlace + 1)

theorem IsNeighbour.mem {items : List (Value ν)} {node other : ν}
    (neighbour : IsNeighbour items node other) : .node other ∈ items := by
  obtain ⟨_, otherPlace, _, atOther, _⟩ := neighbour
  exact List.mem_of_getElem? atOther

theorem IsNeighbour.symm {items : List (Value ν)} {node other : ν}
    (neighbour : IsNeighbour items node other) : IsNeighbour items other node := by
  obtain ⟨place, otherPlace, atPlace, atOther, beside⟩ := neighbour
  exact ⟨otherPlace, place, atOther, atPlace, beside.symm⟩

theorem acceptedAt_iff {accepts : ν → Bool} {items : List (Value ν)} {place : Nat} :
    (items[place]?.bind Value.node?).any accepts = true ↔
      ∃ other, items[place]? = some (.node other) ∧ accepts other = true := by
  rw [Option.any_eq_true]
  refine exists_congr fun other => and_congr_left fun _ => ?_
  rw [Option.bind_eq_some_iff]
  constructor
  · intro found
    obtain ⟨item, atPlace, isNode⟩ := found
    cases item with
    | node held => cases isNode; exact atPlace
    | _ => cases isNode
  · exact fun atPlace => ⟨.node other, atPlace, rfl⟩

variable [SyntaxNode ν]

/-- A child field of the parent holds the list. -/
def HoldsList (schema : Schema ν) (parent : ν) (items : List (Value ν)) : Prop :=
  ∃ fields, schema parent = .ok fields ∧
    ∃ name ∈ fields, SyntaxNode.field parent name = .list items

variable {schema : Schema ν} {root : ν}

theorem mem_parentLists {parent : ν} {above : List ν} {items : List (Value ν)} :
    items ∈ parentLists schema (parent :: above) ↔ HoldsList schema parent items := by
  simp only [parentLists, HoldsList]
  cases schema parent with
  | error refusal => simp
  | ok fields =>
      simp only [List.mem_filterMap, Except.ok.injEq, exists_eq_left']
      refine exists_congr fun name => and_congr_right fun _ => ?_
      cases SyntaxNode.field parent name <;> simp [Value.list?]

/-- The elements of a list that a child field of a visited node holds are visited below it. -/
theorem mem_visits_of_holdsList (accepted : (traversalEvents schema root).refusal? = none)
    {parent other : ν} {above : List ν} {items : List (Value ν)}
    (member : ⟨parent, above⟩ ∈ (visits schema (.root root)).state)
    (holds : HoldsList schema parent items) (isItem : .node other ∈ items) :
    ⟨other, parent :: above⟩ ∈ (visits schema (.root root)).state := by
  obtain ⟨fields, found, name, isField, held⟩ := holds
  have isChild : other ∈ fields.flatMap fun name => (SyntaxNode.field parent name).nodes := by
    refine List.mem_flatMap.mpr ⟨name, isField, ?_⟩
    rw [held]
    exact List.mem_filterMap.mpr ⟨.node other, isItem, rfl⟩
  have steps : Visit.Steps schema ⟨parent, above⟩ ⟨other, parent :: above⟩ :=
    ⟨_, by rw [children, found], other, isChild, rfl⟩
  rw [(traversal_tracks schema root).refusal] at accepted
  exact mem_visits_of_steps accepted member steps

/-! ## Nodes told apart in the lists of a parent -/

/-- The node is told apart among the elements of the lists that child fields of the parent hold:
handles to an element and to the node are the same exactly when they are equal, and no such list
holds the node at two places. -/
structure ToldApart (schema : Schema ν) (parent node : ν) : Prop where
  same_iff : ∀ {items : List (Value ν)} {other : ν}, HoldsList schema parent items →
    .node other ∈ items → (SyntaxNode.same other node = true ↔ other = node)
  place_eq : ∀ {items : List (Value ν)} {i j : Nat}, HoldsList schema parent items →
    items[i]? = some (.node node) → items[j]? = some (.node node) → i = j

namespace ToldApart

variable {parent node : ν}

/-- The first place of a node in a list of its parent is its only place there. -/
theorem placeOf?_eq_some_iff (apart : ToldApart schema parent node) {items : List (Value ν)}
    (holds : HoldsList schema parent items) {place : Nat} :
    placeOf? node items = some place ↔ items[place]? = some (.node node) := by
  have holdsNode_iff {item : Value ν} (isItem : item ∈ items) :
      holdsNode node item = true ↔ item = .node node := by
    unfold holdsNode
    cases item with
    | node other =>
        rw [Value.node.injEq]
        exact apart.same_iff holds isItem
    | _ => simp [Value.node?]
  unfold placeOf?
  rw [List.findIdx?_eq_some_iff_getElem]
  constructor
  · intro first
    obtain ⟨inBounds, isNode, _⟩ := first
    rw [List.getElem?_eq_getElem inBounds, (holdsNode_iff (List.getElem_mem inBounds)).mp isNode]
  · intro atPlace
    obtain ⟨inBounds, isNode⟩ := List.getElem?_eq_some_iff.mp atPlace
    refine ⟨inBounds, (holdsNode_iff (List.getElem_mem inBounds)).mpr isNode, ?_⟩
    intro earlier before earlierHolds
    have earlierBounds := Nat.lt_trans before inBounds
    have atEarlier : items[earlier]? = some (.node node) := by
      rw [List.getElem?_eq_getElem earlierBounds,
        (holdsNode_iff (List.getElem_mem earlierBounds)).mp earlierHolds]
    exact absurd (apart.place_eq holds atEarlier atPlace) (Nat.ne_of_lt before)

theorem hasSibling_iff (apart : ToldApart schema parent node) (accepts : ν → Bool)
    (above : List ν) :
    hasSibling schema accepts node (parent :: above) = true ↔
      ∃ items, HoldsList schema parent items ∧ ∃ other, IsSibling items node other ∧
        accepts other = true := by
  unfold hasSibling
  rw [List.any_eq_true]
  simp only [mem_parentLists]
  refine exists_congr fun items => and_congr_right fun holds => ?_
  rw [List.any_eq_true]
  constructor
  · intro search
    obtain ⟨item, isItem, found⟩ := search
    cases item with
    | node other =>
        obtain ⟨differs, passed⟩ := Bool.and_eq_true_iff.mp found
        refine ⟨other, ⟨isItem, fun same => ?_⟩, passed⟩
        rw [(apart.same_iff holds isItem).mpr same] at differs
        cases differs
    | _ => cases found
  · intro sibling
    obtain ⟨other, ⟨isItem, differs⟩, passed⟩ := sibling
    refine ⟨.node other, isItem, Bool.and_eq_true_iff.mpr ⟨?_, passed⟩⟩
    rw [Bool.not_eq_true']
    exact Bool.eq_false_iff.mpr fun same => differs ((apart.same_iff holds isItem).mp same)

theorem hasNeighbour_iff (apart : ToldApart schema parent node) (accepts : ν → Bool)
    (above : List ν) :
    hasNeighbour schema accepts node (parent :: above) = true ↔
      ∃ items, HoldsList schema parent items ∧ ∃ other, IsNeighbour items node other ∧
        accepts other = true := by
  unfold hasNeighbour
  rw [List.any_eq_true]
  simp only [mem_parentLists]
  refine exists_congr fun items => and_congr_right fun holds => ?_
  constructor
  · intro found
    split at found
    · cases found
    · next place atPlace =>
        have isNode := (apart.placeOf?_eq_some_iff holds).mp atPlace
        rw [Bool.or_eq_true, Bool.and_eq_true, acceptedAt_iff, acceptedAt_iff,
          decide_eq_true_iff] at found
        rcases found with ⟨positive, other, atOther, passed⟩ | ⟨other, atOther, passed⟩
        · exact ⟨other, ⟨place, place - 1, isNode, atOther, .inr (by omega)⟩, passed⟩
        · exact ⟨other, ⟨place, place + 1, isNode, atOther, .inl rfl⟩, passed⟩
  · intro neighbour
    obtain ⟨other, ⟨place, otherPlace, isNode, atOther, beside⟩, passed⟩ := neighbour
    simp only [(apart.placeOf?_eq_some_iff holds).mpr isNode]
    rw [Bool.or_eq_true, Bool.and_eq_true, acceptedAt_iff, acceptedAt_iff, decide_eq_true_iff]
    rcases beside with rfl | rfl
    · exact .inr ⟨other, atOther, passed⟩
    · exact .inl ⟨Nat.succ_pos otherPlace, other, atOther, passed⟩

/-- A neighbour of a node is another node, since the node is at one place of the list. -/
theorem isSibling_of_isNeighbour (apart : ToldApart schema parent node) {items : List (Value ν)}
    (holds : HoldsList schema parent items) {other : ν} (neighbour : IsNeighbour items node other) :
    IsSibling items node other := by
  refine ⟨neighbour.mem, ?_⟩
  rintro rfl
  obtain ⟨place, otherPlace, atPlace, atOther, beside⟩ := neighbour
  have samePlace := apart.place_eq holds atPlace atOther
  omega

theorem standsAt_iff (apart : ToldApart schema parent node) (placeIn : Nat → Option Nat)
    (above : List ν) :
    standsAt schema placeIn node (parent :: above) = true ↔
      ∃ items, HoldsList schema parent items ∧ ∃ place, items[place]? = some (.node node) ∧
        placeIn items.length = some place := by
  unfold standsAt
  rw [List.any_eq_true]
  simp only [mem_parentLists]
  refine exists_congr fun items => and_congr_right fun holds => ?_
  simp only [← apart.placeOf?_eq_some_iff holds]
  cases placeOf? node items with
  | none => simp
  | some place => simp

end ToldApart

/-! ## Searches for either of two selectors -/

/-- The two selectors match the two nodes under the same ancestors, one each. -/
def MatchOneEach (schema : Schema ν) (left right : Selector) (ancestry : List ν)
    (node other : ν) : Prop :=
  right.test schema node ancestry = true ∧ left.test schema other ancestry = true ∨
    left.test schema node ancestry = true ∧ right.test schema other ancestry = true

theorem MatchOneEach.symm {left right : Selector} {ancestry : List ν} {node other : ν}
    (matched : MatchOneEach schema left right ancestry node other) :
    MatchOneEach schema left right ancestry other node := by
  rcases matched with ⟨nodeMatches, otherMatches⟩ | ⟨nodeMatches, otherMatches⟩
  · exact .inr ⟨otherMatches, nodeMatches⟩
  · exact .inl ⟨otherMatches, nodeMatches⟩

/-- The other node is in the given place beside the node, in a list that a child field of the parent
holds, and the two selectors match the two nodes, one each. -/
def IsPartner (IsBeside : List (Value ν) → ν → ν → Prop) (schema : Schema ν)
    (left right : Selector) (parent : ν) (above : List ν) (node other : ν) : Prop :=
  (∃ items, HoldsList schema parent items ∧ IsBeside items node other) ∧
    MatchOneEach schema left right (parent :: above) node other

/-- A search for either of two selectors, while the node matches the other one, finds a partner. -/
theorem searchesEither_iff {IsBeside : List (Value ν) → ν → ν → Prop}
    {search : (ν → Bool) → ν → List ν → Bool} {left right : Selector} {parent node : ν}
    {above : List ν}
    (found_iff : ∀ accepts : ν → Bool, search accepts node (parent :: above) = true ↔
      ∃ items, HoldsList schema parent items ∧ ∃ other, IsBeside items node other ∧
        accepts other = true) :
    (right.test schema node (parent :: above) &&
          search (left.test schema · (parent :: above)) node (parent :: above) ||
        left.test schema node (parent :: above) &&
          search (right.test schema · (parent :: above)) node (parent :: above)) = true ↔
      ∃ other, IsPartner IsBeside schema left right parent above node other := by
  rw [Bool.or_eq_true, Bool.and_eq_true, Bool.and_eq_true, found_iff, found_iff]
  constructor
  · rintro (⟨nodeMatches, items, holds, other, beside, otherMatches⟩ |
      ⟨nodeMatches, items, holds, other, beside, otherMatches⟩)
    · exact ⟨other, ⟨items, holds, beside⟩, .inl ⟨nodeMatches, otherMatches⟩⟩
    · exact ⟨other, ⟨items, holds, beside⟩, .inr ⟨nodeMatches, otherMatches⟩⟩
  · rintro ⟨other, ⟨items, holds, beside⟩,
      ⟨nodeMatches, otherMatches⟩ | ⟨nodeMatches, otherMatches⟩⟩
    · exact .inl ⟨nodeMatches, items, holds, other, beside, otherMatches⟩
    · exact .inr ⟨nodeMatches, items, holds, other, beside, otherMatches⟩

/-- Visited nodes are told apart in the lists of their parents. -/
theorem Unambiguous.toldApart (unambiguous : Unambiguous schema root)
    (accepted : (traversalEvents schema root).refusal? = none) {node parent : ν} {above : List ν}
    (member : ⟨node, parent :: above⟩ ∈ (visits schema (.root root)).state) :
    ToldApart schema parent node where
  same_iff holds isItem :=
    unambiguous.same_iff
      (mem_visits_of_holdsList accepted (mem_visits_parent member) holds isItem) member
  place_eq holds atPlace atOther := by
    obtain ⟨_, _, _, _, held⟩ := holds
    exact unambiguous.place_eq (mem_visits_parent member) held atPlace atOther

/-! ## Searches -/

/-- A search finds an accepted node exactly where a list of the parent has one in the given place
beside the node; a root has no lists to search. -/
structure Searches (schema : Schema ν) (root : ν) (IsBeside : List (Value ν) → ν → ν → Prop)
    (search : (ν → Bool) → ν → List ν → Bool) : Prop where
  isItem : ∀ {items : List (Value ν)} {node other : ν}, IsBeside items node other →
    .node other ∈ items
  withoutParent : ∀ (accepts : ν → Bool) (node : ν), search accepts node [] = false
  found_iff : ∀ (accepts : ν → Bool) {node parent : ν} {above : List ν},
    ⟨node, parent :: above⟩ ∈ (visits schema (.root root)).state →
    (search accepts node (parent :: above) = true ↔
      ∃ items, HoldsList schema parent items ∧ ∃ other, IsBeside items node other ∧
        accepts other = true)

theorem Unambiguous.searches_siblings (unambiguous : Unambiguous schema root)
    (accepted : (traversalEvents schema root).refusal? = none) :
    Searches schema root IsSibling (hasSibling schema) where
  isItem sibling := sibling.1
  withoutParent _ _ := rfl
  found_iff accepts _ _ above member :=
    (unambiguous.toldApart accepted member).hasSibling_iff accepts above

theorem Unambiguous.searches_neighbours (unambiguous : Unambiguous schema root)
    (accepted : (traversalEvents schema root).refusal? = none) :
    Searches schema root IsNeighbour (hasNeighbour schema) where
  isItem := IsNeighbour.mem
  withoutParent _ _ := rfl
  found_iff accepts _ _ above member :=
    (unambiguous.toldApart accepted member).hasNeighbour_iff accepts above

end SyntaxQuery
