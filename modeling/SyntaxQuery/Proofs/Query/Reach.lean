import SyntaxQuery.Proofs.Query.Reports

/-!
Contract: how far up a selector looks.

A selector has a reach (`Selector.reach`), which its shape alone decides. Unless a descendant
combinator looks for an ancestor at any height, no test of the selector looks at an ancestor beyond
it (`Selector.looksWithin_reach`), negated or not.

Does not own: what is found within the reach.
-/

namespace SyntaxQuery

/-! ## Reaches -/

/-- The last ancestor that a test of a single node looks at: the one its field path starts from. -/
def NodeTest.reach : NodeTest → Nat
  | .wildcard => 0
  | .identifier _ => 0
  | .field path => (Text.segments path).length
  | .attribute _ _ _ => 0

/-- The reach of a combinator, given the reaches of its sides. Siblings and neighbours are found in
the parent and are tested with the ancestors of the node itself. The ancestor that a descendant
combinator looks for can be at any height, which no reach accounts for. -/
def Combinator.reach (combinator : Combinator) (left right : Nat) : Nat :=
  match combinator with
  | .child => max right (1 + left)
  | .descendant => max right (1 + left)
  | .sibling => max 1 (max left right)
  | .adjacent => max 1 (max left right)

namespace Selector

mutual

/-- How many of a node's ancestors a selector looks at, the nearest ones. -/
def reach : Selector → Nat
  | .single test _ => test.reach
  | .group _ members _ => greatestReach members
  | .relation combinator left right _ => combinator.reach (reach left) (reach right)
  | .place _ _ none _ => 1
  | .place _ _ (some inner) _ => max 1 (reach inner)

/-- The greatest reach of several selectors, none of which reaches anywhere if there is none. -/
def greatestReach : List Selector → Nat
  | [] => 0
  | first :: rest => max (reach first) (greatestReach rest)

end

mutual

/-- Whether a selector is a descendant relation or has one in it, at any depth. -/
def hasDescendant : Selector → Bool
  | .single _ _ => false
  | .group _ members _ => anyHasDescendant members
  | .relation combinator left right _ =>
      combinator == .descendant || hasDescendant left || hasDescendant right
  | .place _ _ none _ => false
  | .place _ _ (some inner) _ => hasDescendant inner

/-- Whether there is a descendant relation in one of several selectors. -/
def anyHasDescendant : List Selector → Bool
  | [] => false
  | first :: rest => hasDescendant first || anyHasDescendant rest

end

end Selector

/-! ## Tests within a reach -/

variable {ν : Type}

/-- Whether a test holds is decided by the node and so many of its nearest ancestors. -/
def LooksWithin (reach : Nat) (test : ν → List ν → Bool) : Prop :=
  ∀ node ancestry, test node (ancestry.take reach) = test node ancestry

namespace LooksWithin

variable {reach greater : Nat} {test other : ν → List ν → Bool}

/-- A test that looks within a reach also looks within a greater one. -/
theorem mono (within : LooksWithin reach test) (le : reach ≤ greater) :
    LooksWithin greater test := by
  intro node ancestry
  calc test node (ancestry.take greater)
      = test node ((ancestry.take greater).take reach) := (within node _).symm
    _ = test node (ancestry.take reach) := by rw [List.take_take, Nat.min_eq_left le]
    _ = test node ancestry := within node ancestry

theorem not (within : LooksWithin reach test) :
    LooksWithin reach fun node ancestry => !test node ancestry := by
  intro node ancestry
  simp only [within node ancestry]

theorem and (within : LooksWithin reach test) (otherWithin : LooksWithin reach other) :
    LooksWithin reach fun node ancestry => test node ancestry && other node ancestry := by
  intro node ancestry
  simp only [within node ancestry, otherWithin node ancestry]

theorem or (within : LooksWithin reach test) (otherWithin : LooksWithin reach other) :
    LooksWithin reach fun node ancestry => test node ancestry || other node ancestry := by
  intro node ancestry
  simp only [within node ancestry, otherWithin node ancestry]

/-- The parent has one ancestor less above it than the node has. -/
theorem parentSatisfies (within : LooksWithin reach test) :
    LooksWithin (1 + reach) fun _ ancestry => parentSatisfies test ancestry := by
  intro node ancestry
  rw [Nat.add_comm]
  cases ancestry with
  | nil => rfl
  | cons parent above => exact within parent above

end LooksWithin

variable [SyntaxNode ν] {schema : Schema ν}

theorem NodeTest.looksWithin_reach (test : NodeTest) :
    LooksWithin test.reach (test.holds : ν → List ν → Bool) := by
  intro node ancestry
  cases test with
  | field path =>
      have nonempty : (Text.segments path).length ≠ 0 := by
        simp [Text.segments, Text.splitAt_ne_nil]
      have isTaken : (Text.segments path).length - 1 < (Text.segments path).length := by omega
      rw [holds, holds, reach, List.getElem?_take_of_lt isTaken]
  | _ => rfl

section Parents

variable {reach : Nat} (positive : 0 < reach)

include positive

/-- The lists of the parent need the nearest ancestor only. -/
theorem parentLists_take (ancestry : List ν) :
    parentLists schema (ancestry.take reach) = parentLists schema ancestry := by
  cases reach with
  | zero => exact absurd positive (Nat.lt_irrefl 0)
  | succ reach => cases ancestry <;> rfl

theorem standsAt_looksWithin (placeIn : Nat → Option Nat) :
    LooksWithin reach (standsAt schema placeIn) := by
  intro node ancestry
  rw [standsAt, standsAt, parentLists_take positive]

variable {test : ν → List ν → Bool} (within : LooksWithin reach test)

include within

theorem hasSibling_looksWithin :
    LooksWithin reach fun node ancestry =>
      hasSibling schema (test · ancestry) node ancestry := by
  intro node ancestry
  simp only [hasSibling, parentLists_take positive, within _ ancestry]

theorem hasNeighbour_looksWithin :
    LooksWithin reach fun node ancestry =>
      hasNeighbour schema (test · ancestry) node ancestry := by
  intro node ancestry
  simp only [hasNeighbour, parentLists_take positive, within _ ancestry]

end Parents

/-- A combinator looks within its reach if its sides look within theirs, unless it looks for an
ancestor at any height. -/
theorem Combinator.looksWithin_reach {combinator : Combinator} (bounded : combinator ≠ .descendant)
    {left right : ν → List ν → Bool} {leftReach rightReach : Nat}
    (leftWithin : LooksWithin leftReach left) (rightWithin : LooksWithin rightReach right) :
    LooksWithin (combinator.reach leftReach rightReach) (combinator.holds schema left right) := by
  have positive : 0 < max 1 (max leftReach rightReach) := by omega
  have leftHere : LooksWithin (max 1 (max leftReach rightReach)) left :=
    leftWithin.mono (by omega)
  have rightHere : LooksWithin (max 1 (max leftReach rightReach)) right :=
    rightWithin.mono (by omega)
  cases combinator with
  | child =>
      exact (rightWithin.mono (Nat.le_max_left _ _)).and
        (leftWithin.parentSatisfies.mono (Nat.le_max_right _ _))
  | descendant => exact absurd rfl bounded
  | sibling =>
      exact (rightHere.and (hasSibling_looksWithin positive leftHere)).or
        (leftHere.and (hasSibling_looksWithin positive rightHere))
  | adjacent =>
      exact (rightHere.and (hasNeighbour_looksWithin positive leftHere)).or
        (leftHere.and (hasNeighbour_looksWithin positive rightHere))

namespace Selector

mutual

/-- The induction is over the selector: every part looks within its own reach, and what a selector
does with its parts adds no more than its reach adds to theirs. -/
theorem looksWithin_reach : ∀ selector : Selector, selector.hasDescendant = false →
    LooksWithin selector.reach (selector.test schema)
  | .single test _, _ => by
      intro node ancestry
      rw [Selector.test, Selector.test]
      exact test.looksWithin_reach node ancestry
  | .group grouping members _, bounded => by
      intro node ancestry
      obtain ⟨anyWithin, allWithin⟩ := membersLookWithin_reach members bounded
      cases grouping with
      | anyOf =>
          rw [test, test]
          exact anyWithin node ancestry
      | allOf =>
          rw [test, test]
          exact allWithin node ancestry
      | noneOf =>
          rw [test, test]
          exact anyWithin.not node ancestry
  | .relation combinator left right _, bounded => by
      intro node ancestry
      simp only [hasDescendant, Bool.or_eq_false_iff, beq_eq_false_iff_ne] at bounded
      rw [test, test]
      exact combinator.looksWithin_reach bounded.1.1 (looksWithin_reach left bounded.1.2)
        (looksWithin_reach right bounded.2) node ancestry
  | .place edge index none _, _ => by
      intro node ancestry
      rw [test, test]
      exact standsAt_looksWithin Nat.one_pos (edge.place? index) node ancestry
  | .place edge index (some inner) _, bounded => by
      intro node ancestry
      have innerWithin := (looksWithin_reach inner bounded).mono (Nat.le_max_right 1 inner.reach)
      have positive : 0 < max 1 inner.reach := by omega
      rw [test, test]
      exact (innerWithin.and (standsAt_looksWithin positive (edge.place? index))) node ancestry

theorem membersLookWithin_reach : ∀ members : List Selector, anyHasDescendant members = false →
    LooksWithin (greatestReach members) (testAny schema members) ∧
      LooksWithin (greatestReach members) (testAll schema members)
  | [], _ => ⟨fun _ _ => rfl, fun _ _ => rfl⟩
  | first :: rest, bounded => by
      rw [anyHasDescendant, Bool.or_eq_false_iff] at bounded
      have firstWithin := (looksWithin_reach first bounded.1).mono
        (Nat.le_max_left _ (greatestReach rest))
      obtain ⟨anyWithin, allWithin⟩ := membersLookWithin_reach rest bounded.2
      constructor
      · intro node ancestry
        rw [testAny, testAny]
        exact firstWithin.or (anyWithin.mono (Nat.le_max_right _ _)) node ancestry
      · intro node ancestry
        rw [testAll, testAll]
        exact firstWithin.and (allWithin.mono (Nat.le_max_right _ _)) node ancestry

end

/-- Without descendant relations, negated or not, a selector tests a node alike under its ancestors
and under the nearest of them alone, so many as the selector's reach says. -/
theorem test_take_reach (selector : Selector) (bounded : selector.hasDescendant = false)
    (schema : Schema ν) (node : ν) (ancestry : List ν) :
    selector.test schema node ancestry =
      selector.test schema node (ancestry.take selector.reach) :=
  (selector.looksWithin_reach bounded node ancestry).symm

/-- The nodes whose parent does not stand in a field `b`. -/
def parentElsewhere : Selector :=
  .group .noneOf
    [.relation .child (.single (.field "b") false) (.single .wildcard false) false] false

/-- The second ancestor decides, and the third is not looked at. -/
theorem parentElsewhere_reaches_two :
    parentElsewhere.hasDescendant = false ∧ parentElsewhere.reach = 2 ∧
      parentElsewhere.test (fun _ => .ok ["b"]) innerNode [innerNode, outerNode, outerNode] =
        false ∧
      parentElsewhere.test (fun _ => .ok ["b"]) innerNode [innerNode] = true := by
  have two : parentElsewhere.reach = 2 := by decide +kernel
  have nearest : parentElsewhere.test (fun _ => .ok ["b"]) innerNode [innerNode, outerNode] =
      false := by
    decide +kernel
  refine ⟨rfl, two, ?_, by decide +kernel⟩
  rw [test_take_reach parentElsewhere rfl, two]
  exact nearest

end Selector

end SyntaxQuery
