import SyntaxQuery.Proofs.Query.Composition
import SyntaxQuery.Proofs.Query.ListedNodes

/-!
Contract: siblings and neighbours as partners of the node that is tested.

The partner of a node passes the same test if it finds the node beside itself. Neighbours always do
(`IsPartner.symm_of_isNeighbour`). A sibling does if the node is an element of a list too
(`IsPartner.symm_of_isListed`), since a field that holds the node alone is not searched.

Does not own: the lists that are searched.
-/

namespace SyntaxQuery

variable {ν : Type} [SyntaxNode ν] {schema : Schema ν} {left right : Selector} {subject : Bool}
  {parent node other : ν} {above : List ν}

/-! ## Tests by partners -/

theorem ToldApart.test_sibling_iff (apart : ToldApart schema parent node) :
    Selector.test schema (.relation .sibling left right subject) node (parent :: above) = true ↔
      ∃ other, IsPartner IsSibling schema left right parent above node other :=
  searchesEither_iff fun accepts => apart.hasSibling_iff accepts above

theorem ToldApart.test_adjacent_iff (apart : ToldApart schema parent node) :
    Selector.test schema (.relation .adjacent left right subject) node (parent :: above) = true ↔
      ∃ other, IsPartner IsNeighbour schema left right parent above node other :=
  searchesEither_iff fun accepts => apart.hasNeighbour_iff accepts above

/-- Siblings are partners of each other if both are listed. -/
theorem IsPartner.symm_of_isListed (listed : IsListed schema parent node)
    (partner : IsPartner IsSibling schema left right parent above node other) :
    IsPartner IsSibling schema left right parent above other node := by
  obtain ⟨items, holds, isItem⟩ := listed
  obtain ⟨⟨_, _, _, differs⟩, matched⟩ := partner
  exact ⟨⟨items, holds, isItem, differs.symm⟩, matched.symm⟩

theorem IsPartner.symm_of_isNeighbour
    (partner : IsPartner IsNeighbour schema left right parent above node other) :
    IsPartner IsNeighbour schema left right parent above other node := by
  obtain ⟨⟨items, holds, neighbour⟩, matched⟩ := partner
  exact ⟨⟨items, holds, neighbour.symm⟩, matched.symm⟩

/-- A node that passes the test for neighbours has a neighbour that passes it too, and the node
passes the test for siblings. -/
theorem IsListedTree.neighbour_passes {Holds : ν → Prop} (isTree : IsListedTree Holds)
    (parentHolds : Holds parent) (nodeHolds : Holds node)
    (passed : Selector.test schema (.relation .adjacent left right subject) node
      (parent :: above) = true) (siblingSubject : Bool) :
    (∃ items, HoldsList schema parent items ∧ ∃ other, IsNeighbour items node other ∧
      Selector.test schema (.relation .adjacent left right subject) other (parent :: above) =
        true) ∧
    Selector.test schema (.relation .sibling left right siblingSubject) node (parent :: above) =
      true := by
  have apart : ToldApart schema parent node := isTree.toldApart parentHolds nodeHolds
  obtain ⟨other, partner⟩ := apart.test_adjacent_iff.mp passed
  have ⟨⟨items, holds, neighbour⟩, matched⟩ := partner
  have otherApart : ToldApart schema parent other :=
    isTree.toldApart parentHolds (isTree.holds_of_mem_list parentHolds holds neighbour.mem)
  constructor
  · exact ⟨items, holds, other, neighbour,
      otherApart.test_adjacent_iff.mpr ⟨node, partner.symm_of_isNeighbour⟩⟩
  · exact apart.test_sibling_iff.mpr
      ⟨other, ⟨items, holds, apart.isSibling_of_isNeighbour holds neighbour⟩, matched⟩

/-! ## Neighbours -/

/-- In documents and in source trees, whatever fields hold children: where a node passes the test
for neighbours, it stands in a list of its parent beside a node that passes the same test, and it
passes the test for siblings. -/
theorem neighbours_match_in_pairs :
    (∀ (document : Json) (schema : Schema DocumentNode) (left right : Selector)
      (subject siblingSubject : Bool) (node parent : DocumentNode) (above : List DocumentNode),
      node.StandsIn document → parent.StandsIn document →
      Selector.test schema (.relation .adjacent left right subject) node (parent :: above) = true →
      (∃ items, HoldsList schema parent items ∧ ∃ other, IsNeighbour items node other ∧
        Selector.test schema (.relation .adjacent left right subject) other (parent :: above) =
          true) ∧
      Selector.test schema (.relation .sibling left right siblingSubject) node (parent :: above) =
        true) ∧
    ∀ (source : String) (tree : SyntaxTree) (schema : Schema SourceNode) (left right : Selector)
      (subject siblingSubject : Bool) (node parent : SourceNode) (above : List SourceNode),
      node.StandsIn source tree → parent.StandsIn source tree →
      Selector.test schema (.relation .adjacent left right subject) node (parent :: above) = true →
      (∃ items, HoldsList schema parent items ∧ ∃ other, IsNeighbour items node other ∧
        Selector.test schema (.relation .adjacent left right subject) other (parent :: above) =
          true) ∧
      Selector.test schema (.relation .sibling left right siblingSubject) node (parent :: above) =
        true := by
  constructor
  · intro document schema left right subject siblingSubject node parent above nodeStands
      parentStands passed
    exact (DocumentNode.isListedTree document).neighbour_passes parentStands nodeStands passed
      siblingSubject
  · intro source tree schema left right subject siblingSubject node parent above nodeStands
      parentStands passed
    exact (SourceNode.isListedTree source tree).neighbour_passes parentStands nodeStands passed
      siblingSubject

/-- A list with a gap before two names. -/
def gapAndNames : Json :=
  .object [("type", .string "ArrayExpression"), ("elements", .array [.null,
    .object [("type", .string "Identifier")], .object [("type", .string "Identifier")]])]

/-- A call with two arguments and the tokens around them. -/
def argumentList : SyntaxTree :=
  .branch ⟨"arguments", none, true, 0, 5, 0, false, false, false⟩
    [.branch ⟨"(", none, false, 0, 1, 0, false, false, false⟩ [],
      .branch ⟨"identifier", none, true, 1, 2, 0, false, false, false⟩ [],
      .branch ⟨",", none, false, 2, 3, 0, false, false, false⟩ [],
      .branch ⟨"identifier", none, true, 3, 4, 0, false, false, false⟩ [],
      .branch ⟨")", none, false, 4, 5, 0, false, false, false⟩ []]

/-- The selector that matches every node. -/
def anyNode : Selector := .single .wildcard false

/-- In both the first name has the second one as a neighbour that passes the test too. -/
theorem first_name_matches_in_pair :
    (∃ items, HoldsList DocumentSchema.standard.childFields ⟨[], gapAndNames⟩ items ∧
      ∃ other, IsNeighbour items
          ⟨[.member "elements", .element 1], .object [("type", .string "Identifier")]⟩ other ∧
        Selector.test DocumentSchema.standard.childFields
          (.relation .adjacent anyNode anyNode false) other [⟨[], gapAndNames⟩] = true) ∧
    ∃ items, HoldsList SourceNode.schema (.root "(a,b)" argumentList) items ∧
      ∃ other, IsNeighbour items ⟨[1],
          .branch ⟨"identifier", none, true, 1, 2, 0, false, false, false⟩ [], "(a,b)"⟩ other ∧
        Selector.test SourceNode.schema (.relation .adjacent anyNode anyNode false) other
          [.root "(a,b)" argumentList] = true := by
  let name : DocumentNode :=
    ⟨[.member "elements", .element 1], .object [("type", .string "Identifier")]⟩
  let argument : SourceNode :=
    ⟨[1], .branch ⟨"identifier", none, true, 1, 2, 0, false, false, false⟩ [], "(a,b)"⟩
  obtain ⟨inDocuments, inSources⟩ := neighbours_match_in_pairs
  constructor
  · exact (inDocuments gapAndNames DocumentSchema.standard.childFields anyNode anyNode false false
      name ⟨[], gapAndNames⟩ [] rfl rfl rfl).1
  · exact (inSources "(a,b)" argumentList SourceNode.schema anyNode anyNode false false
      argument (.root "(a,b)" argumentList) [] ⟨rfl, rfl⟩ ⟨rfl, rfl⟩ rfl).1

/-! ## Siblings -/

/-- Where a query for siblings reports a node, some other child of the same parent is in a list that
a child field of the parent holds, and the two selectors match the two nodes, one each. If the node
itself is in such a list, every such child is reported too. -/
theorem listed_siblings_reported_together (document : Json) (root : DocumentNode)
    (schema : Schema DocumentNode) (isRoot : DocumentNode.root? document = some root)
    (accepted : (traversalEvents schema root).refusal? = none) :
    ∃ reported : Selector → List DocumentNode,
      (∀ selector, selector.Unmarked → matchTree schema selector root = .ok (reported selector)) ∧
      ∀ left right : Selector, left.Unmarked → right.Unmarked →
        ∀ node ∈ reported (.relation .sibling left right false), ∃ parent above,
          ⟨node, parent :: above⟩ ∈ (visits schema (.root root)).state ∧
          (∃ other, ⟨other, parent :: above⟩ ∈ (visits schema (.root root)).state ∧
            IsPartner IsSibling schema left right parent above node other) ∧
          (IsListed schema parent node →
            ∀ other, IsPartner IsSibling schema left right parent above node other →
              other ∈ reported (.relation .sibling left right false)) := by
  have unambiguous := unambiguous_of_root? isRoot schema
  refine ⟨passedNodes schema root, fun _ unmarked => matchTree_of_unmarked accepted unmarked, ?_⟩
  intro left right _ _ node reported
  obtain ⟨ancestry, member, passed⟩ := mem_passedNodes.mp reported
  cases ancestry with
  | nil =>
      -- The root has no lists to search.
      have notPassed :
          Selector.test schema (.relation .sibling left right false) node [] = false := by
        show (right.test schema node [] && false || left.test schema node [] && false) = false
        rw [Bool.and_false, Bool.and_false, Bool.or_false]
      rw [notPassed] at passed
      cases passed
  | cons parent above =>
      have parentMember := mem_visits_parent member
      have visited {other : DocumentNode}
          (partner : IsPartner IsSibling schema left right parent above node other) :
          ⟨other, parent :: above⟩ ∈ (visits schema (.root root)).state := by
        obtain ⟨⟨items, holds, isItem, _⟩, _⟩ := partner
        exact mem_visits_of_holdsList accepted parentMember holds isItem
      refine ⟨parent, above, member, ?_, ?_⟩
      · obtain ⟨other, partner⟩ :=
          (unambiguous.toldApart accepted member).test_sibling_iff.mp passed
        exact ⟨other, visited partner, partner⟩
      · intro listed other partner
        have otherApart := unambiguous.toldApart accepted (visited partner)
        exact mem_passedNodes.mpr ⟨_, visited partner,
          otherApart.test_sibling_iff.mpr ⟨node, partner.symm_of_isListed listed⟩⟩

/-- A query for any two siblings reports the first of the two names and the second one with it. -/
theorem second_name_reported_with_first :
    DocumentNode.root? gapAndNames = some ⟨[], gapAndNames⟩ ∧
      (traversalEvents DocumentSchema.standard.childFields ⟨[], gapAndNames⟩).refusal? = none ∧
      ∃ reported, matchTree DocumentSchema.standard.childFields
          (.relation .sibling anyNode anyNode false) ⟨[], gapAndNames⟩ = .ok reported ∧
        ⟨[.member "elements", .element 1], .object [("type", .string "Identifier")]⟩ ∈ reported ∧
        ⟨[.member "elements", .element 2], .object [("type", .string "Identifier")]⟩ ∈ reported := by
  let name (index : Nat) : DocumentNode :=
    ⟨[.member "elements", .element index], .object [("type", .string "Identifier")]⟩
  let siblings : Selector := .relation .sibling anyNode anyNode false
  have isRoot : DocumentNode.root? gapAndNames = some ⟨[], gapAndNames⟩ := rfl
  have visited : visits DocumentSchema.standard.childFields (.root ⟨[], gapAndNames⟩) =
      ⟨[⟨⟨[], gapAndNames⟩, []⟩, ⟨name 1, [⟨[], gapAndNames⟩]⟩, ⟨name 2, [⟨[], gapAndNames⟩]⟩],
        none⟩ :=
    visits_of_leaves [name 1, name 2] rfl (by
      intro child isChild
      rcases List.mem_pair.mp isChild with rfl | rfl <;> rfl)
  have accepted : (traversalEvents DocumentSchema.standard.childFields
      ⟨[], gapAndNames⟩).refusal? = none := by
    rw [(traversal_tracks _ _).refusal, visited]
  obtain ⟨reported, matchTree_eq, partners⟩ :=
    listed_siblings_reported_together gapAndNames _ _ isRoot accepted
  have reports := matchTree_eq siblings (by decide)
  have reportsFirst : name 1 ∈ reported siblings := by
    have sameReports := reports.symm.trans (matchTree_of_unmarked accepted (by decide))
    rw [Except.ok.inj sameReports, passedNodes, visited]
    exact List.mem_cons_self
  obtain ⟨parent, above, member, _, together⟩ :=
    partners anyNode anyNode (by decide) (by decide) (name 1) reportsFirst
  have firstMember : ⟨name 1, [⟨[], gapAndNames⟩]⟩ ∈
      (visits DocumentSchema.standard.childFields (.root ⟨[], gapAndNames⟩)).state := by
    rw [visited]
    exact List.mem_cons_of_mem _ List.mem_cons_self
  cases (unambiguous_of_root? isRoot _).ancestry_eq member firstMember
  have holds : HoldsList DocumentSchema.standard.childFields ⟨[], gapAndNames⟩
      [.null, .node (name 1), .node (name 2)] := ⟨["elements"], rfl, "elements", by decide, rfl⟩
  have listed : IsListed DocumentSchema.standard.childFields ⟨[], gapAndNames⟩ (name 1) :=
    ⟨_, holds, List.mem_cons_of_mem _ List.mem_cons_self⟩
  have beside : IsSibling [.null, .node (name 1), .node (name 2)] (name 1) (name 2) :=
    ⟨List.mem_cons_of_mem _ (List.mem_cons_of_mem _ List.mem_cons_self), by
      intro same
      cases congrArg DocumentNode.position same⟩
  exact ⟨isRoot, accepted, reported siblings, reports, reportsFirst,
    together listed (name 2) ⟨⟨_, holds, beside⟩, .inl ⟨rfl, rfl⟩⟩⟩

/-- A call of a name with one argument. -/
def singleArgumentCall : Json :=
  .object [("type", .string "CallExpression"), ("callee", .object [("type", .string "Identifier")]),
    ("arguments", .array [.object [("type", .string "Literal")]])]

/-- It is not so that every node reported by a query for siblings has a sibling that is reported
too: the callee has the argument beside it, which finds nothing in the lists of the call. -/
theorem callee_reported_without_argument :
    ¬ ∀ (document : Json) (root : DocumentNode) (schema : Schema DocumentNode)
        (left right : Selector),
      DocumentNode.root? document = some root →
      (traversalEvents schema root).refusal? = none → left.Unmarked → right.Unmarked →
      ∀ reported, matchTree schema (.relation .sibling left right false) root = .ok reported →
        ∀ node ∈ reported, ∃ other ∈ reported, other ≠ node ∧ ∃ parent above,
          ⟨node, parent :: above⟩ ∈ (visits schema (.root root)).state ∧
          ⟨other, parent :: above⟩ ∈ (visits schema (.root root)).state ∧
          MatchOneEach schema left right (parent :: above) node other := by
  let call : DocumentNode := ⟨[], singleArgumentCall⟩
  let callee : DocumentNode := ⟨[.member "callee"], .object [("type", .string "Identifier")]⟩
  let argument : DocumentNode :=
    ⟨[.member "arguments", .element 0], .object [("type", .string "Literal")]⟩
  let schema := DocumentSchema.standard.childFields
  let siblings : Selector := .relation .sibling anyNode anyNode false
  have visited : visits schema (.root call) =
      ⟨[⟨call, []⟩, ⟨callee, [call]⟩, ⟨argument, [call]⟩], none⟩ :=
    visits_of_leaves [callee, argument] rfl (by
      intro child isChild
      rcases List.mem_pair.mp isChild with rfl | rfl <;> rfl)
  have accepted : (traversalEvents schema call).refusal? = none := by
    rw [(traversal_tracks schema call).refusal, visited]
  have reportsCallee : matchTree schema siblings call = .ok [callee] := by
    rw [matchTree_of_unmarked accepted (by decide), passedNodes, visited]
    rfl
  intro paired
  obtain ⟨other, isReported, differs, _⟩ := paired singleArgumentCall call schema anyNode anyNode
    rfl accepted (by decide) (by decide) _ reportsCallee callee List.mem_cons_self
  exact differs (List.mem_singleton.mp isReported)

end SyntaxQuery
