import Mathlib.Data.List.Basic
import SyntaxQuery.Proofs.Query.Reports
import SyntaxQuery.Proofs.Selector.Paths
import SyntaxQuery.Proofs.Traversal.Identity
import SyntaxQuery.Proofs.Traversal.Images

/-!
Contract: queries of two trees, one of which is the image of the other.

A test of a node asks the schema for the lists of ancestors only, and of these lists only those with
nodes in them can matter. So where the schemas agree at the ancestors, the test of the image has the
same outcome (`Preserves.test_image`), and where they agree at every entered node, the query of the
image reports the images (`Preserves.matchTree_image`).

Does not own: maps of nodes that keep what a selector asks for.
-/

namespace SyntaxQuery

variable {ν μ : Type}

/-! ## Comparisons -/

theorem Operand.equals_map (operand : Operand) (image : ν → μ) (found : Value ν) :
    operand.equals (found.map image) = operand.equals found := by
  cases operand <;> simp only [equals, Value.text_map, Value.typeName_map]

theorem Operator.compares_map (operator : Operator) (image : ν → μ) (found : Value ν)
    (operand : Operand) :
    operator.compares (found.map image) operand = operator.compares found operand := by
  cases operator <;> simp only [compares, Operand.equals_map, Value.toPrimitive_map]

/-! ## Lineages -/

theorem Visit.lineage_map (image : ν → μ) (visit : Visit ν) :
    (visit.map image).lineage = visit.lineage.map (Visit.map image) := by
  obtain ⟨node, ancestry⟩ := visit
  show lineageOf (image node) (ancestry.map image) = (lineageOf node ancestry).map (Visit.map image)
  induction ancestry generalizing node with
  | nil => rfl
  | cons parent above inductionHypothesis =>
      rw [List.map_cons, lineageOf, inductionHypothesis, lineageOf, List.map_cons]
      rfl

/-! ## Lists with nodes -/

theorem nodes_ne_nil_of_any {accepts : ν → Bool} {items : List (Value ν)}
    (found : (items.any fun item => item.node?.any accepts) = true) :
    (Value.list items).nodes ≠ [] := by
  obtain ⟨item, isItem, accepted⟩ := List.any_eq_true.mp found
  obtain ⟨held, isNode, _⟩ := (Option.any_eq_true _ _).mp accepted
  exact List.ne_nil_of_mem (List.mem_filterMap.mpr ⟨item, isItem, isNode⟩)

/-- A search through the lists among some values that never succeeds in a list without nodes can
leave out the values without nodes. -/
theorem any_filterMap_list? {accepts : List (Value ν) → Bool}
    (onlyNodes : ∀ items, accepts items = true → (Value.list items).nodes ≠ [])
    (values : List (Value ν)) :
    (values.filterMap Value.list?).any accepts =
      (values.filter fun value => !value.nodes.isEmpty).any fun value =>
        value.list?.any accepts := by
  induction values with
  | nil => rfl
  | cons value rest inductionHypothesis =>
      rw [List.filterMap_cons, List.filter_cons]
      cases value with
      | list items =>
          cases found : (Value.list items).nodes with
          | nil =>
              have rejected : accepts items = false := by
                rw [Bool.eq_false_iff]
                exact fun accepted => onlyNodes items accepted found
              simpa [Value.list?, rejected] using inductionHypothesis
          | cons held others =>
              simpa [Value.list?] using congrArg (accepts items || ·) inductionHypothesis
      | node held => simpa [Value.list?, Value.nodes] using inductionHypothesis
      | _ => exact inductionHypothesis

variable [SyntaxNode ν] [SyntaxNode μ]

/-- A list in which a node has a place has nodes. -/
theorem nodes_ne_nil_of_placeOf? {node : ν} {items : List (Value ν)} {accepts : Nat → Bool}
    (found : (match placeOf? node items with
      | none => false
      | some place => accepts place) = true) : (Value.list items).nodes ≠ [] := by
  cases isAt : placeOf? node items with
  | none => simp [isAt] at found
  | some place =>
      obtain ⟨inBounds, holds, _⟩ := List.findIdx?_eq_some_iff_getElem.mp isAt
      exact nodes_ne_nil_of_any (List.any_eq_true.mpr ⟨_, List.getElem_mem inBounds, holds⟩)

/-- The lists of a parent are among the values that its child fields hold, as far as a search
through them can tell that never succeeds in a list without nodes. -/
theorem any_parentLists {schema : Schema ν} {accepts : List (Value ν) → Bool}
    (onlyNodes : ∀ items, accepts items = true → (Value.list items).nodes ≠ []) (parent : ν)
    (above : List ν) :
    (parentLists schema (parent :: above)).any accepts =
      match heldValues schema parent with
      | .error _ => false
      | .ok values => values.any fun value => value.list?.any accepts := by
  unfold heldValues
  cases found : schema parent with
  | error refusal => simp only [parentLists, found, Except.map, List.any_nil]
  | ok fields =>
      simp only [parentLists, found, Except.map]
      rw [← any_filterMap_list? onlyNodes, List.filterMap_map]
      rfl

section Parents

variable {schema : Schema ν} {other : Schema μ} {image : ν → μ}

/-- Where schemas agree at the parent, a search through its lists and one through those of the image
have one outcome, if they have one in a list and its image. -/
theorem any_parentLists_image {accepts : List (Value ν) → Bool}
    {otherAccepts : List (Value μ) → Bool}
    (onlyNodes : ∀ items, accepts items = true → (Value.list items).nodes ≠ [])
    (otherOnlyNodes : ∀ items, otherAccepts items = true → (Value.list items).nodes ≠ [])
    (accepts_image : ∀ items, otherAccepts (items.map (Value.map image)) = accepts items)
    {ancestry : List ν} (agrees : ∀ parent ∈ ancestry, AgreesAt schema other image parent) :
    (parentLists other (ancestry.map image)).any otherAccepts =
      (parentLists schema ancestry).any accepts := by
  cases ancestry with
  | nil => rfl
  | cons parent above =>
      have agreed : heldValues other (image parent) = _ := agrees parent List.mem_cons_self
      rw [List.map_cons, any_parentLists otherOnlyNodes, any_parentLists onlyNodes, agreed]
      cases heldValues schema parent with
      | error refusal => rfl
      | ok values =>
          have same (value : Value ν) :
              (value.map image).list?.any otherAccepts = value.list?.any accepts := by
            rw [Value.list?_map, Option.any_map]
            exact congrArg (value.list?.any ·) (funext accepts_image)
          simp only [Except.map, List.any_map, Function.comp_def, same]

end Parents

namespace Preserves

variable {Known : String → Prop} {schema : Schema ν} {other : Schema μ} {image : ν → μ}

section Relations

variable (preserves : Preserves Known image)

include preserves

/-! ## Siblings, neighbours and places -/

theorem placeOf?_image (node : ν) (items : List (Value ν)) :
    placeOf? (image node) (items.map (Value.map image)) = placeOf? node items := by
  have holds (item : Value ν) : holdsNode (image node) (item.map image) = holdsNode node item := by
    rw [holdsNode, holdsNode, Value.node?_map, Option.any_map]
    exact congrArg (item.node?.any ·) (funext fun held => preserves.same_eq held node)
  rw [placeOf?, placeOf?, List.findIdx?_map]
  exact congrArg (List.findIdx? · items) (funext holds)

variable {node : ν} {ancestry : List ν}
  (agrees : ∀ parent ∈ ancestry, AgreesAt schema other image parent)
  {accepts : ν → List ν → Bool} {otherAccepts : μ → List μ → Bool}
  (accepts_image : ∀ sibling,
    otherAccepts (image sibling) (ancestry.map image) = accepts sibling ancestry)

include agrees

theorem standsAt_image (placeIn : Nat → Option Nat) :
    standsAt other placeIn (image node) (ancestry.map image) =
      standsAt schema placeIn node ancestry := by
  refine any_parentLists_image (fun items => nodes_ne_nil_of_placeOf?)
    (fun items => nodes_ne_nil_of_placeOf?) (fun items => ?_) agrees
  rw [preserves.placeOf?_image, List.length_map]

include accepts_image

theorem hasSibling_image :
    hasSibling other (otherAccepts · (ancestry.map image)) (image node) (ancestry.map image) =
      hasSibling schema (accepts · ancestry) node ancestry := by
  refine any_parentLists_image (fun items => nodes_ne_nil_of_any)
    (fun items => nodes_ne_nil_of_any) (fun items => ?_) agrees
  simp only [List.any_map, Function.comp_def, Value.node?_map, Option.any_map,
    preserves.same_eq, accepts_image]

theorem hasNeighbour_image :
    hasNeighbour other (otherAccepts · (ancestry.map image)) (image node) (ancestry.map image) =
      hasNeighbour schema (accepts · ancestry) node ancestry := by
  have acceptedAt (items : List (Value ν)) (index : Nat) :
      ((items.map (Value.map image))[index]?.bind Value.node?).any
          (otherAccepts · (ancestry.map image)) =
        (items[index]?.bind Value.node?).any (accepts · ancestry) := by
    rw [List.getElem?_map]
    cases items[index]? with
    | none => rfl
    | some item =>
        simp only [Option.map_some, Option.bind_some, Value.node?_map, Option.any_map,
          accepts_image]
  refine any_parentLists_image (fun items => nodes_ne_nil_of_placeOf?)
    (fun items => nodes_ne_nil_of_placeOf?) (fun items => ?_) agrees
  simp only [preserves.placeOf?_image, acceptedAt]

omit agrees accepts_image

/-! ## Tests -/

theorem holds_image {test : NodeTest} (known : ∀ segment ∈ test.segments, Known segment) (node : ν)
    (ancestry : List ν) :
    test.holds (image node) (ancestry.map image) = test.holds node ancestry := by
  cases test with
  | wildcard => rfl
  | identifier value => rw [NodeTest.holds, NodeTest.holds, preserves.kind_eq]
  | field path =>
      rw [NodeTest.holds, NodeTest.holds, List.getElem?_map]
      cases ancestry[(Text.segments path).length - 1]? with
      | none => rfl
      | some ancestor => exact preserves.leadsTo_map known node (.node ancestor)
  | «attribute» path operator? operand? =>
      have resolved : resolve (image node) path = (resolve node path).map image :=
        preserves.resolve_image known node
      cases operator? with
      | none => simp only [NodeTest.holds, resolved, Value.isPresent_map]
      | some operator =>
          cases operand? with
          | none => rfl
          | some operand =>
              simp only [NodeTest.holds, resolved, Operator.compares_map]

/-- Two tests that have one outcome at a node and at its image have so in a combinator's relation,
where the schemas agree at the ancestors. -/
theorem combinator_image (combinator : Combinator) {left right : ν → List ν → Bool}
    {otherLeft otherRight : μ → List μ → Bool}
    (left_image : ∀ node ancestry, (∀ parent ∈ ancestry, AgreesAt schema other image parent) →
      otherLeft (image node) (ancestry.map image) = left node ancestry)
    (right_image : ∀ node ancestry, (∀ parent ∈ ancestry, AgreesAt schema other image parent) →
      otherRight (image node) (ancestry.map image) = right node ancestry)
    (node : ν) {ancestry : List ν}
    (agrees : ∀ parent ∈ ancestry, AgreesAt schema other image parent) :
    combinator.holds other otherLeft otherRight (image node) (ancestry.map image) =
      combinator.holds schema left right node ancestry := by
  have atNode (sibling : ν) := left_image sibling ancestry agrees
  have rightAtNode (sibling : ν) := right_image sibling ancestry agrees
  cases combinator with
  | child =>
      rw [Combinator.holds, Combinator.holds, rightAtNode]
      congr 1
      cases ancestry with
      | nil => rfl
      | cons parent above => exact left_image parent above (List.forall_mem_cons.mp agrees).2
  | descendant =>
      rw [Combinator.holds, Combinator.holds, rightAtNode]
      congr 1
      clear atNode rightAtNode
      induction ancestry with
      | nil => rfl
      | cons ancestor above inductionHypothesis =>
          have agreesAbove := (List.forall_mem_cons.mp agrees).2
          exact congrArg₂ or (left_image ancestor above agreesAbove)
            (inductionHypothesis agreesAbove)
  | sibling =>
      simp only [Combinator.holds, atNode, rightAtNode,
        preserves.hasSibling_image agrees atNode, preserves.hasSibling_image agrees rightAtNode]
  | adjacent =>
      simp only [Combinator.holds, atNode, rightAtNode,
        preserves.hasNeighbour_image agrees atNode, preserves.hasNeighbour_image agrees rightAtNode]

end Relations

mutual

theorem test_image_of_tests (preserves : Preserves Known image) : ∀ (selector : Selector),
    (∀ test ∈ selector.tests, ∀ segment ∈ test.segments, Known segment) →
    ∀ (node : ν) (ancestry : List ν),
      (∀ parent ∈ ancestry, AgreesAt schema other image parent) →
      selector.test other (image node) (ancestry.map image) = selector.test schema node ancestry
  | .single test _, known, node, ancestry, _ => by
      rw [Selector.tests] at known
      rw [Selector.test, Selector.test]
      exact preserves.holds_image (known test List.mem_cons_self) node ancestry
  | .group grouping members _, known, node, ancestry, agrees => by
      rw [Selector.tests] at known
      obtain ⟨any_image, all_image⟩ :=
        testMembers_image preserves members known node ancestry agrees
      cases grouping with
      | anyOf => rw [Selector.test, Selector.test, any_image]
      | allOf => rw [Selector.test, Selector.test, all_image]
      | noneOf => rw [Selector.test, Selector.test, any_image]
  | .relation combinator left right _, known, node, ancestry, agrees => by
      rw [Selector.tests] at known
      obtain ⟨knownLeft, knownRight⟩ := List.forall_mem_append.mp known
      rw [Selector.test, Selector.test]
      exact preserves.combinator_image combinator (test_image_of_tests preserves left knownLeft)
        (test_image_of_tests preserves right knownRight) node agrees
  | .place edge index none _, _, node, ancestry, agrees => by
      rw [Selector.test, Selector.test]
      exact preserves.standsAt_image agrees _
  | .place edge index (some inner) _, known, node, ancestry, agrees => by
      rw [Selector.tests] at known
      rw [Selector.test, Selector.test, preserves.standsAt_image agrees,
        test_image_of_tests preserves inner known node ancestry agrees]

theorem testMembers_image (preserves : Preserves Known image) : ∀ (members : List Selector),
    (∀ test ∈ Selector.allTests members, ∀ segment ∈ test.segments, Known segment) →
    ∀ (node : ν) (ancestry : List ν),
      (∀ parent ∈ ancestry, AgreesAt schema other image parent) →
      Selector.testAny other members (image node) (ancestry.map image) =
          Selector.testAny schema members node ancestry ∧
        Selector.testAll other members (image node) (ancestry.map image) =
          Selector.testAll schema members node ancestry
  | [], _, _, _, _ => ⟨rfl, rfl⟩
  | first :: rest, known, node, ancestry, agrees => by
      rw [Selector.allTests] at known
      obtain ⟨knownFirst, knownRest⟩ := List.forall_mem_append.mp known
      obtain ⟨any_image, all_image⟩ :=
        testMembers_image preserves rest knownRest node ancestry agrees
      rw [Selector.testAny, Selector.testAny, Selector.testAll, Selector.testAll, any_image,
        all_image, test_image_of_tests preserves first knownFirst node ancestry agrees]
      exact ⟨rfl, rfl⟩

end

variable (preserves : Preserves Known image) {selector : Selector}
  (known : ∀ segment ∈ selector.segments, Known segment)

include preserves known

/-- A test of the image has the outcome of the test of the node, where the schemas agree at the
ancestors. -/
theorem test_image (node : ν) {ancestry : List ν}
    (agrees : ∀ parent ∈ ancestry, AgreesAt schema other image parent) :
    selector.test other (image node) (ancestry.map image) = selector.test schema node ancestry := by
  refine preserves.test_image_of_tests selector (fun test isTest segment named => ?_) node ancestry
    agrees
  exact known segment (List.mem_flatMap.mpr ⟨test, isTest, named⟩)

/-! ## Queries -/

/-- The ancestors that a test accepts above the image are the images of those above the node. -/
theorem accepted_image {visit : Visit ν}
    (agrees : ∀ parent ∈ visit.ancestry, AgreesAt schema other image parent) :
    (visit.map image).accepted other selector = (visit.accepted schema selector).map image := by
  have passes_image (higher : Visit ν) (above : higher ∈ visit.lineage) :
      (higher.map image).passes other selector = higher.passes schema selector :=
    preserves.test_image known higher.node fun parent isAbove =>
      agrees parent ((Visit.ancestry_suffix_of_mem_lineageOf above).subset isAbove)
  rw [Visit.accepted, Visit.accepted, Visit.lineage_map, List.filter_map, List.map_map,
    List.map_map]
  congr 1
  exact List.filter_congr passes_image

theorem reports_image {visit : Visit ν}
    (agrees : ∀ parent ∈ visit.ancestry, AgreesAt schema other image parent) :
    (visit.map image).reports other selector = (visit.reports schema selector).map image := by
  have fragments_image : ∀ fragment ∈ selector.subjects,
      (visit.map image).accepted other fragment = (visit.accepted schema fragment).map image :=
    fun fragment isFragment => preserves.accepted_image (fun segment named =>
      known segment (Selector.segments_subset_of_mem_subjects isFragment named)) agrees
  have passes_image : (visit.map image).passes other selector = visit.passes schema selector :=
    preserves.test_image known visit.node agrees
  rw [Visit.reports, Visit.reports, passes_image]
  split
  · split
    · rfl
    · rw [List.map_flatMap]
      exact List.flatMap_congr fragments_image
  · rfl

/-- The query of the image reports the images, or is refused alike, where the schemas agree at every
node that the traversal enters, the refused one included. -/
theorem matchTree_image {root : ν}
    (agrees : ∀ node, Enters schema root node → AgreesAt schema other image node) :
    matchTree other selector (image root) =
      (matchTree schema selector root).map (List.map image) := by
  have each : ∀ visit ∈ (visits schema (.root root)).state,
      (visit.map image).reports other selector = (visit.reports schema selector).map image := by
    intro visit member
    exact preserves.reports_image known fun parent isAbove =>
      agrees parent (enters_of_mem_ancestry member isAbove)
  rw [matchTree_eq_reports_of_visits, matchTree_eq_reports_of_visits, visits_image agrees]
  simp only [Outcome.map]
  cases (visits schema (.root root)).refusal? with
  | some refusal => rfl
  | none =>
      simp only [Except.map, List.flatMap_map, List.map_flatMap]
      exact congrArg Except.ok (List.flatMap_congr each)

end Preserves

end SyntaxQuery
