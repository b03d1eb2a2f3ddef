import SyntaxQuery.Selector.Subjects
import SyntaxQuery.Text.Segments

/-!
Contract: the tests in a selector, and the segments of their paths.

Owns: the tests at any depth, the segments that field and attribute tests name, and that the
fragments of a selector name no others.
Does not own: what a path leads to.
-/

namespace SyntaxQuery

/-- The segments of the path in a test; tests of the type tag have none. -/
def NodeTest.segments : NodeTest → List String
  | .field path => Text.segments path
  | .attribute path _ _ => Text.segments path
  | _ => []

namespace Selector

mutual

/-- The tests of single nodes in a selector, at any depth. -/
def tests : Selector → List NodeTest
  | .single test _ => [test]
  | .group _ members _ => allTests members
  | .relation _ left right _ => tests left ++ tests right
  | .place _ _ none _ => []
  | .place _ _ (some inner) _ => tests inner

def allTests : List Selector → List NodeTest
  | [] => []
  | first :: rest => tests first ++ allTests rest

end

/-- The segments of all paths in a selector. -/
def segments (selector : Selector) : List String :=
  selector.tests.flatMap NodeTest.segments

theorem eq_of_mem_own {scope fragment : Selector} {subject : Bool}
    (member : fragment ∈ own scope subject) : fragment = scope := by
  cases subject with
  | false => cases member
  | true => exact List.mem_singleton.mp member

mutual

/-- A test in a fragment of a part is one of the scope around the part or of the part itself. -/
theorem mem_tests_of_mem_fragments {test : NodeTest} {scope : Selector} :
    ∀ (part : Selector) {fragment : Selector}, fragment ∈ fragments scope part →
      test ∈ fragment.tests → test ∈ scope.tests ∨ test ∈ part.tests
  | .single _ subject, fragment, member, isTest => by
      rw [fragments] at member
      exact .inl (eq_of_mem_own member ▸ isTest)
  | .group _ members subject, fragment, member, isTest => by
      rw [fragments] at member
      rw [tests]
      rcases List.mem_append.mp member with isOwn | inMembers
      · exact .inl (eq_of_mem_own isOwn ▸ isTest)
      · exact mem_tests_of_mem_memberFragments members inMembers isTest
  | .relation _ left right subject, fragment, member, isTest => by
      rw [fragments] at member
      rw [tests]
      rcases List.mem_append.mp member with isFirst | inRight
      · rcases List.mem_append.mp isFirst with isOwn | inLeft
        · exact .inl (eq_of_mem_own isOwn ▸ isTest)
        · -- The left side is the scope of its own marks.
          have isLeft := (mem_tests_of_mem_fragments left inLeft isTest).elim id id
          exact .inr (List.mem_append_left _ isLeft)
      · exact (mem_tests_of_mem_fragments right inRight isTest).imp_right
          (List.mem_append_right _)
  | .place _ _ none subject, fragment, member, isTest => by
      rw [fragments] at member
      exact .inl (eq_of_mem_own member ▸ isTest)
  | .place _ _ (some inner) subject, fragment, member, isTest => by
      rw [fragments] at member
      rw [tests]
      rcases List.mem_append.mp member with isOwn | inInner
      · exact .inl (eq_of_mem_own isOwn ▸ isTest)
      · exact mem_tests_of_mem_fragments inner inInner isTest

theorem mem_tests_of_mem_memberFragments {test : NodeTest} {scope : Selector} :
    ∀ (members : List Selector) {fragment : Selector}, fragment ∈ memberFragments scope members →
      test ∈ fragment.tests → test ∈ scope.tests ∨ test ∈ allTests members
  | [], _, member, _ => by cases member
  | first :: rest, fragment, member, isTest => by
      rw [memberFragments] at member
      rw [allTests]
      rcases List.mem_append.mp member with inFirst | inRest
      · exact (mem_tests_of_mem_fragments first inFirst isTest).imp_right (List.mem_append_left _)
      · exact (mem_tests_of_mem_memberFragments rest inRest isTest).imp_right
          (List.mem_append_right _)

end

/-- The fragments of a selector name no segments that the selector does not name. -/
theorem segments_subset_of_mem_subjects {selector fragment : Selector}
    (member : fragment ∈ selector.subjects) : fragment.segments ⊆ selector.segments := by
  intro segment named
  obtain ⟨test, isTest, inTest⟩ := List.mem_flatMap.mp named
  have inSelector := (mem_tests_of_mem_fragments selector member isTest).elim id id
  exact List.mem_flatMap.mpr ⟨test, inSelector, inTest⟩

end Selector

end SyntaxQuery
