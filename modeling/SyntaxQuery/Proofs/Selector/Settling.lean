import SyntaxQuery.Proofs.Decimal.Finiteness
import SyntaxQuery.Proofs.Regex.CacheAnswers
import SyntaxQuery.Proofs.Selector.Paths
import SyntaxQuery.Selector.Encode

/-!
Contract: what is left of the tests in a selector once the selector is written and read.

Writing replaces a number that is not finite by null, and reading compiles patterns anew. The
settled selector has both done to its tests. It is written like the original, and equals it exactly
if all numbers are finite (`settle_agrees_iff`).

Does not own: reading.
-/

namespace SyntaxQuery

/-! ## Properties of tests -/

/-- A literal that is a number is a finite one. -/
def Literal.IsFinite : Literal → Prop
  | .number value => value.isFinite = true
  | _ => True

namespace NodeTest

/-- The literal of the test, if it has one, is finite. -/
def HasFiniteLiteral : NodeTest → Prop
  | .attribute _ _ (some (.literal literal)) => literal.IsFinite
  | _ => True

/-- The path of an attribute test that has an operator but no operand. -/
def missingOperand? : NodeTest → Option String
  | .attribute path (some _) none => some path
  | _ => none

/-- With a library, the source and options of the test's pattern, if it has one, are accepted by an
empty store. -/
def PatternCompiles (build : Regex.Builder) : NodeTest → Prop
  | .attribute _ _ (some (.pattern compiled)) =>
      ∃ regex, RegexCache.empty.answer build compiled.source compiled.options = .ok regex
  | _ => True

end NodeTest

namespace Selector

/-- Every number written in the selector is finite. -/
def NumbersFinite (selector : Selector) : Prop :=
  ∀ test ∈ selector.tests, test.HasFiniteLiteral

/-- No attribute test in the selector has an operator without an operand. -/
def OperandsComplete (selector : Selector) : Prop :=
  ∀ test ∈ selector.tests, test.missingOperand? = none

/-- With a library, every pattern in the selector is accepted by an empty store. -/
def PatternsCompile (build : Regex.Builder) (selector : Selector) : Prop :=
  ∀ test ∈ selector.tests, test.PatternCompiles build

end Selector

/-! ## Settled selectors -/

/-- The literal that is read where a literal was written. -/
def Literal.settle : Literal → Literal
  | .number value => if value.isFinite then .number value else .null
  | literal => literal

/-- The pattern compiled anew, if it compiles. -/
def Pattern.settle (build : Regex.Builder) (pattern : Pattern) : Pattern :=
  match Regex.compile build pattern.source pattern.options with
  | .ok regex => ⟨pattern.source, pattern.options, regex⟩
  | .error _ => pattern

/-- The operand that is read where an operand was written. -/
def Operand.settle (build : Regex.Builder) : Operand → Operand
  | .pattern compiled => .pattern (compiled.settle build)
  | .literal value => .literal value.settle
  | .typeName name => .typeName name

/-- The test that is read where a test was written. -/
def NodeTest.settle (build : Regex.Builder) : NodeTest → NodeTest
  | .attribute path operator? operand? =>
      .attribute path operator? (operand?.map (Operand.settle build))
  | test => test

namespace Selector

mutual

/-- The selector that is read where a selector was written. -/
def settle (build : Regex.Builder) : Selector → Selector
  | .single test subject => .single (test.settle build) subject
  | .group grouping members subject => .group grouping (settleAll build members) subject
  | .relation combinator left right subject =>
      .relation combinator (settle build left) (settle build right) subject
  | .place edge index none subject => .place edge index none subject
  | .place edge index (some inner) subject => .place edge index (some (settle build inner)) subject

/-- The selectors that are read where several were written. -/
def settleAll (build : Regex.Builder) : List Selector → List Selector
  | [] => []
  | first :: rest => settle build first :: settleAll build rest

end

end Selector

variable {build : Regex.Builder}

/-! ## Agreement with the original -/

theorem Literal.settle_agrees_iff (literal : Literal) :
    literal.settle.agrees literal = true ↔ literal.IsFinite := by
  cases literal with
  | null => exact ⟨fun _ => trivial, fun _ => rfl⟩
  | bool value => simp [Literal.settle, Literal.agrees, Literal.IsFinite]
  | string value => simp [Literal.settle, Literal.agrees, Literal.IsFinite]
  | number value =>
      by_cases finite : value.isFinite
      · simp [Literal.settle, Literal.agrees, Literal.IsFinite, finite,
          beq_self_of_isFinite finite]
      · simp [Literal.settle, Literal.agrees, Literal.IsFinite, finite]

theorem Pattern.settle_agrees (pattern : Pattern) :
    (pattern.settle build).agrees pattern = true := by
  unfold Pattern.settle
  split <;> simp [Pattern.agrees]

theorem NodeTest.settle_agrees_iff : ∀ test : NodeTest,
    (test.settle build).agrees test = true ↔ test.HasFiniteLiteral
  | .wildcard => ⟨fun _ => trivial, fun _ => rfl⟩
  | .identifier value => by simp [settle, agrees, HasFiniteLiteral]
  | .field path => by simp [settle, agrees, HasFiniteLiteral]
  | .attribute path operator? none => by
      simp [settle, agrees, HasFiniteLiteral, Operand.optionAgrees]
  | .attribute path operator? (some operand) => by
      rw [settle, agrees, beq_self_eq_true, beq_self_eq_true, Bool.true_and, Bool.true_and]
      cases operand with
      | pattern compiled => exact ⟨fun _ => trivial, fun _ => compiled.settle_agrees⟩
      | literal value => exact value.settle_agrees_iff
      | typeName name =>
          simp [Operand.settle, Operand.optionAgrees, Operand.agrees, HasFiniteLiteral]

namespace Selector

mutual

theorem settle_agrees_iff_forall : ∀ selector : Selector,
    (selector.settle build).agrees selector = true ↔ ∀ test ∈ selector.tests, test.HasFiniteLiteral
  | .single test subject => by
      rw [settle, agrees, tests, beq_self_eq_true, Bool.and_true, List.forall_mem_singleton]
      exact test.settle_agrees_iff
  | .group grouping members subject => by
      rw [settle, agrees, tests, beq_self_eq_true, beq_self_eq_true, Bool.true_and, Bool.and_true]
      exact settleAll_agree_iff_forall members
  | .relation combinator left right subject => by
      rw [settle, agrees, tests, beq_self_eq_true, beq_self_eq_true, Bool.true_and, Bool.and_true,
        Bool.and_eq_true, settle_agrees_iff_forall left, settle_agrees_iff_forall right,
        List.forall_mem_append]
  | .place edge index none subject => by
      simp [settle, agrees, tests]
  | .place edge index (some inner) subject => by
      rw [settle, agrees, tests, beq_self_eq_true, beq_self_eq_true, beq_self_eq_true,
        Bool.true_and, Bool.true_and, Bool.and_true]
      exact settle_agrees_iff_forall inner

theorem settleAll_agree_iff_forall : ∀ members : List Selector,
    listsAgree (settleAll build members) members = true ↔
      ∀ test ∈ allTests members, test.HasFiniteLiteral
  | [] => by simp [settleAll, listsAgree, allTests]
  | first :: rest => by
      rw [settleAll, listsAgree, allTests, Bool.and_eq_true, settle_agrees_iff_forall first,
        settleAll_agree_iff_forall rest, List.forall_mem_append]

end

/-- The settled selector equals the original exactly if all numbers are finite. -/
theorem settle_agrees_iff (build : Regex.Builder) (selector : Selector) :
    (selector.settle build).agrees selector = true ↔ selector.NumbersFinite :=
  settle_agrees_iff_forall selector

end Selector

/-! ## Writing settled selectors -/

theorem Literal.encode_settle (literal : Literal) : literal.settle.encode = literal.encode := by
  cases literal with
  | number value =>
      by_cases finite : value.isFinite
      · simp [Literal.settle, finite]
      · simp [Literal.settle, Literal.encode, Json.ofFloat, finite]
  | _ => rfl

theorem Operand.encode_settle (operand : Operand) :
    (operand.settle build).encode = operand.encode := by
  cases operand with
  | pattern compiled =>
      simp only [Operand.settle, Pattern.settle]
      split <;> rfl
  | literal value => simp only [Operand.settle, Operand.encode, value.encode_settle]
  | typeName name => rfl

theorem NodeTest.encode_settle : ∀ test : NodeTest, (test.settle build).encode = test.encode
  | .wildcard => rfl
  | .identifier _ => rfl
  | .field _ => rfl
  | .attribute _ _ none => rfl
  | .attribute _ _ (some operand) => by
      simp only [settle, encode, Option.map_some, operand.encode_settle]

theorem NodeTest.shape_settle (test : NodeTest) : (test.settle build).shape = test.shape := by
  cases test <;> rfl

namespace Selector

mutual

/-- The settled selector is written like the original. -/
theorem encode_settle : ∀ selector : Selector, (selector.settle build).encode = selector.encode
  | .single test subject => by
      rw [settle, encode, test.encode_settle, test.shape_settle, encode]
  | .group grouping members subject => by
      rw [settle, encode, encodeAll_settleAll members, encode]
  | .relation combinator left right subject => by
      rw [settle, encode, encode_settle left, encode_settle right, encode]
  | .place edge index none subject => rfl
  | .place edge index (some inner) subject => by
      rw [settle, encode, encode_settle inner, encode]

theorem encodeAll_settleAll : ∀ members : List Selector,
    encodeAll (settleAll build members) = encodeAll members
  | [] => rfl
  | first :: rest => by
      rw [settleAll, encodeAll, encode_settle first, encodeAll_settleAll rest, encodeAll]

end

end Selector

end SyntaxQuery
