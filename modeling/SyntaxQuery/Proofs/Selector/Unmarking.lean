import SyntaxQuery.Proofs.Selector.Marks
import SyntaxQuery.Proofs.Selector.Paths

/-!
Contract: selectors with all marks cleared.

Owns: the selector without its marks, that it has the same tests, and when two selectors are equal
but for their marks.
Does not own: what marks are for.
-/

namespace SyntaxQuery

/-- The operand is no pattern, or it is what a compiler makes of its source and options. -/
def Operand.CompiledBy (compiler : String → String → Regex) : Operand → Prop
  | .pattern compiled => compiled.regex = compiler compiled.source compiled.options
  | _ => True

def NodeTest.CompiledBy (compiler : String → String → Regex) : NodeTest → Prop
  | .attribute _ _ (some operand) => operand.CompiledBy compiler
  | _ => True

namespace Selector

mutual

/-- The selector with nothing in it marked. -/
def unmark : Selector → Selector
  | .single test _ => .single test false
  | .group grouping members _ => .group grouping (unmarkAll members) false
  | .relation combinator left right _ => .relation combinator (unmark left) (unmark right) false
  | .place edge index none _ => .place edge index none false
  | .place edge index (some inner) _ => .place edge index (some (unmark inner)) false

def unmarkAll : List Selector → List Selector
  | [] => []
  | first :: rest => unmark first :: unmarkAll rest

end

mutual

theorem unmarked_unmark : ∀ selector : Selector, selector.unmark.hasMark = false
  | .single _ _ => rfl
  | .group _ members _ => by simp [unmark, hasMark, unmarked_unmarkAll members]
  | .relation _ left right _ => by
      simp [unmark, hasMark, unmarked_unmark left, unmarked_unmark right]
  | .place _ _ none _ => rfl
  | .place _ _ (some inner) _ => by simp [unmark, hasMark, unmarked_unmark inner]

theorem unmarked_unmarkAll : ∀ members : List Selector, anyHasMark (unmarkAll members) = false
  | [] => rfl
  | first :: rest => by
      simp [unmarkAll, anyHasMark, unmarked_unmark first, unmarked_unmarkAll rest]

end

mutual

theorem tests_unmark : ∀ selector : Selector, selector.unmark.tests = selector.tests
  | .single _ _ => rfl
  | .group _ members _ => by simp [unmark, tests, allTests_unmarkAll members]
  | .relation _ left right _ => by simp [unmark, tests, tests_unmark left, tests_unmark right]
  | .place _ _ none _ => rfl
  | .place _ _ (some inner) _ => by simp [unmark, tests, tests_unmark inner]

theorem allTests_unmarkAll : ∀ members : List Selector,
    allTests (unmarkAll members) = allTests members
  | [] => rfl
  | first :: rest => by
      simp [unmarkAll, allTests, tests_unmark first, allTests_unmarkAll rest]

end

/-- Every pattern in the selector is what a compiler makes of its source and options. -/
def CompiledBy (compiler : String → String → Regex) (selector : Selector) : Prop :=
  ∀ test ∈ selector.tests, test.CompiledBy compiler

/-- The selectors are equal once nothing in them is marked: they are the same then, or they agree,
with all their patterns from one compiler. -/
def EqualUnmarked (left right : Selector) : Prop :=
  left.unmark = right.unmark ∨
    (left.unmark.agrees right.unmark = true ∧
      ∃ compiler, left.CompiledBy compiler ∧ right.CompiledBy compiler)

end Selector

end SyntaxQuery
