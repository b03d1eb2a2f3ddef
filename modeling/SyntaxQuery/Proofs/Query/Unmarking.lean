import SyntaxQuery.Proofs.Decimal.EqualNumbers
import SyntaxQuery.Proofs.Query.Reports
import SyntaxQuery.Proofs.Selector.Unmarking

/-!
Contract: marks do not change what a selector matches.

A test looks at no mark, at any depth of the selector (`test_unmark`), and selectors that agree have
the same tests (`test_eq_of_agrees`). So a query tests the nodes of its traversal with the same
outcome however its selector is marked. Marks only decide what it reports of a match.

Does not own: what is reported.
-/

namespace SyntaxQuery

variable {ν : Type}

/-! ## Members that match alike -/

namespace Selector

variable [SyntaxNode ν] {schema : Schema ν}
variable {first other : Selector} {members others : List Selector}

/-- The members of two groups match alike, whether some or all of them must. -/
def SameMembers (schema : Schema ν) (members others : List Selector) : Prop :=
  testAny schema members = testAny schema others ∧ testAll schema members = testAll schema others

theorem SameMembers.cons (sameFirst : first.test schema = other.test schema)
    (same : SameMembers schema members others) :
    SameMembers schema (first :: members) (other :: others) := by
  constructor <;> funext node ancestry
  · rw [testAny, testAny, sameFirst, same.1]
  · rw [testAll, testAll, sameFirst, same.2]

theorem SameMembers.test_group (same : SameMembers schema members others) (grouping : Grouping)
    (subject otherSubject : Bool) :
    (group grouping members subject).test schema =
      (group grouping others otherSubject).test schema := by
  funext node ancestry
  cases grouping with
  | anyOf => rw [test, test, same.1]
  | allOf => rw [test, test, same.2]
  | noneOf => rw [test, test, same.1]

end Selector

/-! ## Tests that agree -/

/-- Literals that agree have the same text. -/
theorem Literal.text_eq_of_agrees {left right : Literal} (same : left.agrees right = true) :
    left.toPrimitive.text = right.toPrimitive.text := by
  cases left with
  | number value =>
      cases right with
      | number other => exact attributeText_congr same
      | _ => cases same
  | _ => cases right <;> simp_all [Literal.agrees]

/-- Literals that agree are ordered alike against any primitive. -/
theorem Literal.compare_eq_of_agrees {left right : Literal} (same : left.agrees right = true)
    (primitive : Primitive) :
    primitive.compare left.toPrimitive = primitive.compare right.toPrimitive := by
  cases left with
  | number value =>
      cases right with
      | number other =>
          have congr := compareNumbers_congr same primitive.toNumber
          cases primitive <;> exact congr
      | _ => cases same
  | _ => cases right <;> simp_all [Literal.agrees]

/-- An order comparison is decided by the order with the operand, if that has one. -/
theorem Operator.compares_eq_any {operator : Operator}
    (isOrder : operator ≠ .equal ∧ operator ≠ .notEqual) (found : Value ν) (operand : Operand) :
    operator.compares found operand =
      (operand.raw?.map found.toPrimitive.compare).any operator.holdsFor := by
  cases raw : operand.raw? <;> cases operator <;> simp_all [compares]

section Compiled

variable {compiler : String → String → Regex}

/-- Operands that agree, with patterns from one compiler, equal the same values. -/
theorem Operand.equals_of_agrees {left right : Operand} (compiled : left.CompiledBy compiler)
    (otherCompiled : right.CompiledBy compiler) (same : left.agrees right = true)
    (found : Value ν) : left.equals found = right.equals found := by
  cases left with
  | pattern pattern =>
      cases right with
      | pattern other =>
          rw [agrees, Pattern.agrees, Bool.and_eq_true, beq_iff_eq, beq_iff_eq] at same
          have sameRegex : pattern.regex = other.regex := by
            calc pattern.regex = compiler pattern.source pattern.options := compiled
              _ = compiler other.source other.options := by rw [same.1, same.2]
              _ = other.regex := otherCompiled.symm
          rw [equals, equals, sameRegex]
      | _ => cases same
  | literal value =>
      cases right with
      | literal other => rw [equals, equals, Literal.text_eq_of_agrees same]
      | _ => cases same
  | typeName name =>
      cases right with
      | typeName other => rw [eq_of_beq same]
      | _ => cases same

/-- Operands that agree are ordered alike against any primitive. -/
theorem Operand.compare_of_agrees {left right : Operand} (same : left.agrees right = true)
    (primitive : Primitive) :
    left.raw?.map primitive.compare = right.raw?.map primitive.compare := by
  cases left with
  | pattern pattern =>
      cases right with
      | pattern other => rfl
      | _ => cases same
  | literal value =>
      cases right with
      | literal other => exact congrArg some (Literal.compare_eq_of_agrees same primitive)
      | _ => cases same
  | typeName name =>
      cases right with
      | typeName other => rw [eq_of_beq same]
      | _ => cases same

/-- Operands that agree, with patterns from one compiler, compare alike under every operator. -/
theorem Operator.compares_of_agrees {left right : Operand} (operator : Operator)
    (compiled : left.CompiledBy compiler) (otherCompiled : right.CompiledBy compiler)
    (same : left.agrees right = true) (found : Value ν) :
    operator.compares found left = operator.compares found right := by
  have equals := Operand.equals_of_agrees compiled otherCompiled same found
  by_cases isOrder : operator ≠ .equal ∧ operator ≠ .notEqual
  · rw [compares_eq_any isOrder, compares_eq_any isOrder, Operand.compare_of_agrees same]
  · cases operator with
    | equal => exact equals
    | notEqual => exact congrArg (!·) equals
    | _ => exact absurd (by decide) isOrder

variable [SyntaxNode ν]

/-- Tests that agree, with patterns from one compiler, hold of the same nodes. -/
theorem NodeTest.holds_of_agrees : ∀ {left right : NodeTest}, left.CompiledBy compiler →
    right.CompiledBy compiler → left.agrees right = true → ∀ (node : ν) (ancestry : List ν),
    left.holds node ancestry = right.holds node ancestry
  | .wildcard, .wildcard, _, _, _, _, _ => rfl
  | .identifier _, .identifier _, _, _, same, _, _ => by rw [eq_of_beq same]
  | .field _, .field _, _, _, same, _, _ => by rw [eq_of_beq same]
  | .attribute _ operator? none, .attribute _ _ none, _, _, same, _, _ => by
      simp only [agrees, Bool.and_eq_true, beq_iff_eq] at same
      rw [same.1.1, same.1.2]
  | .attribute path operator? (some operand), .attribute _ _ (some other), compiled, otherCompiled,
      same, node, _ => by
      simp only [agrees, Operand.optionAgrees, Bool.and_eq_true, beq_iff_eq] at same
      obtain ⟨⟨rfl, rfl⟩, sameOperand⟩ := same
      cases operator? with
      | none => rfl
      | some operator =>
          exact operator.compares_of_agrees compiled otherCompiled sameOperand (resolve node path)
  | .attribute _ _ none, .attribute _ _ (some _), _, _, same, _, _ => by
      simp [agrees, Operand.optionAgrees] at same
  | .attribute _ _ (some _), .attribute _ _ none, _, _, same, _, _ => by
      simp [agrees, Operand.optionAgrees] at same

namespace Selector

variable (schema : Schema ν)

mutual

/-- Selectors that agree, with patterns from one compiler, match the same nodes. -/
theorem test_eq_of_agrees : ∀ (left right : Selector), left.CompiledBy compiler →
    right.CompiledBy compiler → left.agrees right = true → left.test schema = right.test schema
  | .single test _, .single other _, compiled, otherCompiled, same => by
      funext node ancestry
      rw [agrees, Bool.and_eq_true] at same
      rw [Selector.test, Selector.test]
      exact NodeTest.holds_of_agrees (compiled test List.mem_cons_self)
        (otherCompiled other List.mem_cons_self) same.1 node ancestry
  | .group grouping members _, .group _ others _, compiled, otherCompiled, same => by
      simp only [agrees, Bool.and_eq_true, beq_iff_eq] at same
      obtain ⟨⟨rfl, sameMembers⟩, _⟩ := same
      exact (sameMembers_of_agree members others compiled otherCompiled sameMembers).test_group
        grouping _ _
  | .relation combinator first second _, .relation _ other another _, compiled, otherCompiled,
      same => by
      simp only [agrees, Bool.and_eq_true, beq_iff_eq] at same
      obtain ⟨⟨⟨rfl, sameFirst⟩, sameSecond⟩, _⟩ := same
      simp only [CompiledBy, tests, List.forall_mem_append] at compiled otherCompiled
      -- A relation tests other nodes and ancestors too, so the parts must agree as functions.
      funext node ancestry
      rw [test, test, test_eq_of_agrees first other compiled.1 otherCompiled.1 sameFirst,
        test_eq_of_agrees second another compiled.2 otherCompiled.2 sameSecond]
  | .place _ _ none _, .place _ _ none _, _, _, same => by
      simp only [agrees, Bool.and_eq_true, beq_iff_eq] at same
      obtain ⟨⟨rfl, rfl⟩, _⟩ := same
      rfl
  | .place _ _ (some inner) _, .place _ _ (some other) _, compiled, otherCompiled, same => by
      simp only [agrees, Bool.and_eq_true, beq_iff_eq] at same
      obtain ⟨⟨⟨rfl, rfl⟩, sameInner⟩, _⟩ := same
      funext node ancestry
      rw [test, test, test_eq_of_agrees inner other compiled otherCompiled sameInner]
  | .place _ _ none _, .place _ _ (some _) _, _, _, same => by simp [agrees] at same
  | .place _ _ (some _) _, .place _ _ none _, _, _, same => by simp [agrees] at same

theorem sameMembers_of_agree : ∀ (members others : List Selector),
    (∀ test ∈ allTests members, test.CompiledBy compiler) →
    (∀ test ∈ allTests others, test.CompiledBy compiler) → listsAgree members others = true →
    SameMembers schema members others
  | [], [], _, _, _ => ⟨rfl, rfl⟩
  | first :: rest, other :: others, compiled, otherCompiled, same => by
      rw [listsAgree, Bool.and_eq_true] at same
      simp only [allTests, List.forall_mem_append] at compiled otherCompiled
      have sameFirst := test_eq_of_agrees first other compiled.1 otherCompiled.1 same.1
      exact (sameMembers_of_agree rest others compiled.2 otherCompiled.2 same.2).cons sameFirst
  | [], _ :: _, _, _, same => by simp [listsAgree] at same
  | _ :: _, [], _, _, same => by simp [listsAgree] at same

end

end Selector

end Compiled

/-! ## Tests look at no mark -/

variable [SyntaxNode ν]

namespace Selector

variable (schema : Schema ν)

mutual

theorem test_unmark : ∀ selector : Selector, selector.unmark.test schema = selector.test schema
  | .single _ _ => rfl
  | .group grouping members _ => (sameMembers_unmarkAll members).test_group grouping _ _
  | .relation _ left right _ => by
      funext node ancestry
      rw [unmark, test, test, test_unmark left, test_unmark right]
  | .place _ _ none _ => rfl
  | .place _ _ (some inner) _ => by
      funext node ancestry
      rw [unmark, test, test, test_unmark inner]

theorem sameMembers_unmarkAll : ∀ members : List Selector,
    SameMembers schema (unmarkAll members) members
  | [] => ⟨rfl, rfl⟩
  | first :: rest => (sameMembers_unmarkAll rest).cons (test_unmark first)

end

/-- Selectors that are equal but for their marks have the same test. -/
theorem EqualUnmarked.test_eq {left right : Selector} (equal : left.EqualUnmarked right) :
    left.test schema = right.test schema := by
  rw [← test_unmark schema left, ← test_unmark schema right]
  rcases equal with same | ⟨same, compiler, compiled, otherCompiled⟩
  · rw [same]
  · have unmarkedCompiled : left.unmark.CompiledBy compiler := by rwa [CompiledBy, tests_unmark]
    have otherCompiled : right.unmark.CompiledBy compiler := by rwa [CompiledBy, tests_unmark]
    exact test_eq_of_agrees schema left.unmark right.unmark unmarkedCompiled otherCompiled same

end Selector

/-! ## Matches in a query -/

/-- The nodes that a query enters and that its whole selector matches, each with the ancestors it is
tested under. -/
def matchedVisits (schema : Schema ν) (selector : Selector) (root : ν) : List (Visit ν) :=
  (QueryState.trace schema selector .initial (traversalEvents schema root).state).filter
    (Visit.passes schema selector)

theorem matchedVisits_eq_filter_visits (schema : Schema ν) (selector : Selector) (root : ν) :
    matchedVisits schema selector root =
      (visits schema (.root root)).state.filter (Visit.passes schema selector) := by
  unfold matchedVisits
  rw [QueryState.trace_eq_visitsAlong]
  exact congrArg _ (traversal_tracks schema root).along

/-- However a selector is marked, its whole matches the nodes that the query without marks
reports. -/
theorem matchTree_unmark (schema : Schema ν) (selector : Selector) (root : ν) :
    matchTree schema selector.unmark root =
      match (traversalEvents schema root).refusal? with
      | some refusal => .error refusal
      | none => .ok ((matchedVisits schema selector root).map Visit.node) := by
  have sameTest : Visit.passes schema selector.unmark = Visit.passes schema selector := by
    funext visit
    rw [Visit.passes, Visit.passes, selector.test_unmark]
  have sameReport :
      (visits schema (.root root)).state.flatMap (Visit.reports schema selector.unmark) =
        (matchedVisits schema selector root).map Visit.node := by
    rw [flatMap_reports_of_subjects_eq_nil (Selector.subjects_of_unmarked selector.unmarked_unmark),
      matchedVisits_eq_filter_visits, sameTest]
  have sameRefusal := (traversal_tracks schema root).refusal
  cases refused : (visits schema (.root root)).refusal? with
  | some refusal => simp only [matchTree_eq_reports_of_visits, sameRefusal, refused]
  | none => simp only [matchTree_eq_reports_of_visits, sameRefusal, refused, sameReport]

/-- Selectors that are equal but for their marks match the same nodes under any ancestors. Queries
for them match their whole selectors at the same visits, the nodes of which the query without marks
reports. -/
theorem marks_never_matter {left right : Selector} (equal : left.EqualUnmarked right)
    (schema : Schema ν) :
    (∀ (node : ν) (ancestry : List ν),
      left.test schema node ancestry = right.test schema node ancestry) ∧
    ∀ root : ν,
      matchedVisits schema left root = matchedVisits schema right root ∧
      matchTree schema left.unmark root =
        match (traversalEvents schema root).refusal? with
        | some refusal => .error refusal
        | none => .ok ((matchedVisits schema right root).map Visit.node) := by
  have sameTest := equal.test_eq schema
  have sameVisits (root : ν) :
      matchedVisits schema left root = matchedVisits schema right root := by
    have samePasses : Visit.passes schema left = Visit.passes schema right := by
      funext visit
      rw [Visit.passes, Visit.passes, sameTest]
    rw [matchedVisits_eq_filter_visits, matchedVisits_eq_filter_visits, samePasses]
  constructor
  · intro node ancestry
    rw [sameTest]
  · intro root
    constructor
    · exact sameVisits root
    · rw [matchTree_unmark, sameVisits root]

/-- A child of an `A` whose `n` is not the number, with either side marked. -/
def childUnlike (number : Float) (leftMarked rightMarked : Bool) : Selector :=
  .relation .child (.single (.identifier "A") leftMarked)
    (.single (.attribute "n" (some .notEqual) (some (.literal (.number number)))) rightMarked) false

/-- The marks differ and so do the zeros, but both selectors match the inner node below the outer
one. -/
theorem innerNode_matched_under_either_mark :
    (childUnlike 0 true false).EqualUnmarked (childUnlike (-0) false true) ∧
      (childUnlike (-0) false true).test (fun _ => .ok ["b"]) innerNode [outerNode] = true ∧
      (childUnlike 0 true false).test (fun _ => .ok ["b"]) innerNode [outerNode] = true ∧
      matchedVisits (fun _ => .ok ["b"]) (childUnlike 0 true false) outerNode =
        matchedVisits (fun _ => .ok ["b"]) (childUnlike (-0) false true) outerNode := by
  have equal : (childUnlike 0 true false).EqualUnmarked (childUnlike (-0) false true) := by
    refine .inr ⟨by decide +kernel, fun _ _ => ⟨fun _ => false⟩, ?_, ?_⟩ <;>
      simp [childUnlike, Selector.CompiledBy, Selector.tests, NodeTest.CompiledBy,
        Operand.CompiledBy]
  have passed :
      (childUnlike (-0) false true).test (fun _ => .ok ["b"]) innerNode [outerNode] = true := by
    decide +kernel
  have unaffected := marks_never_matter equal fun _ : DocumentNode => .ok ["b"]
  exact ⟨equal, passed, (unaffected.1 innerNode [outerNode]).trans passed,
    (unaffected.2 outerNode).1⟩

end SyntaxQuery
