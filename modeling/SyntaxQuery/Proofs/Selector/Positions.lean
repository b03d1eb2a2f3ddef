import Mathlib.Data.List.Lex
import SyntaxQuery.Selector.Basic

/-!
Contract: the parts of a selector by the ways that lead to them.

A position is a list of branches, taken from the whole selector on. The parts directly below a
selector are listed in their order, so that what is proved of a selector from its parts needs one
case, whatever its shape.

Does not own: what a part means, or how its position is written in JSON.
-/

namespace SyntaxQuery.Selector

/-- A step from a selector into a part directly below it. -/
inductive Branch where
  | member (index : Nat)
  | left
  | right
  /-- What the node at a place must match besides. -/
  | inner
deriving DecidableEq, Repr

/-- The order of the parts of one selector. -/
inductive Branch.Before : Branch → Branch → Prop where
  | members {index later : Nat} (earlier : index < later) : Before (.member index) (.member later)
  | sides : Before .left .right

theorem Branch.Before.ne {branch other : Branch} (before : branch.Before other) :
    branch ≠ other := by
  intro same
  cases before with
  | members earlier =>
      cases same
      exact absurd earlier (Nat.lt_irrefl _)
  | sides => cases same

/-- The part that a branch leads to. -/
def part? : Selector → Branch → Option Selector
  | .group _ members _, .member index => members[index]?
  | .relation _ left _ _, .left => some left
  | .relation _ _ right _, .right => some right
  | .place _ _ of? _, .inner => of?
  | _, _ => none

/-- The part at a position. -/
def at? (selector : Selector) : List Branch → Option Selector
  | [] => some selector
  | branch :: rest => (selector.part? branch).bind fun part => part.at? rest

theorem at?_cons {selector part : Selector} {branch : Branch}
    (found : selector.part? branch = some part) (rest : List Branch) :
    selector.at? (branch :: rest) = part.at? rest := by
  rw [at?, found, Option.bind_some]

theorem at?_append (selector : Selector) (position rest : List Branch) :
    selector.at? (position ++ rest) = (selector.at? position).bind fun part => part.at? rest := by
  induction position generalizing selector with
  | nil => rfl
  | cons branch position inductionHypothesis =>
      rw [List.cons_append, at?, at?, Option.bind_assoc]
      exact congrArg _ (funext fun part => inductionHypothesis part)

theorem part?_left_iff {selector left : Selector} :
    selector.part? .left = some left ↔
      ∃ combinator right subject, selector = .relation combinator left right subject := by
  constructor
  · intro found
    cases selector with
    | relation combinator first right subject =>
        cases found
        exact ⟨combinator, right, subject, rfl⟩
    | _ => cases found
  · rintro ⟨combinator, right, subject, rfl⟩
    rfl

/-- The selector with another part at a branch. -/
def replacePart : Selector → Branch → Selector → Selector
  | .group grouping members subject, .member index, part =>
      .group grouping (members.set index part) subject
  | .relation combinator _ right subject, .left, part => .relation combinator part right subject
  | .relation combinator left _ subject, .right, part => .relation combinator left part subject
  | .place edge index _ subject, .inner, part => .place edge index (some part) subject
  | selector, _, _ => selector

/-- The selector with another part at a position. -/
def replaceAt (selector : Selector) : List Branch → Selector → Selector
  | [], replacement => replacement
  | branch :: rest, replacement =>
      match selector.part? branch with
      | some part => selector.replacePart branch (part.replaceAt rest replacement)
      | none => selector

theorem part?_replacePart {selector part : Selector} {branch : Branch}
    (found : selector.part? branch = some part) (replacement : Selector) :
    (selector.replacePart branch replacement).part? branch = some replacement := by
  cases selector with
  | single test subject => cases found
  | group grouping members subject =>
      cases branch with
      | member index =>
          have within : index < members.length := (List.getElem?_eq_some_iff.mp found).1
          simp [replacePart, part?, within]
      | _ => cases found
  | relation combinator left right subject => cases branch <;> cases found <;> rfl
  | place edge index of? subject =>
      cases branch <;> cases found
      rfl

/-- The replacement stands at the position. -/
theorem at?_replaceAt {selector part : Selector} {position : List Branch}
    (found : selector.at? position = some part) (replacement : Selector) :
    (selector.replaceAt position replacement).at? position = some replacement := by
  induction position generalizing selector with
  | nil => rfl
  | cons branch rest inductionHypothesis =>
      obtain ⟨below, belowFound, partFound⟩ := Option.bind_eq_some_iff.mp found
      rw [replaceAt, belowFound]
      dsimp only
      rw [at?_cons (part?_replacePart belowFound _)]
      exact inductionHypothesis partFound

/-! ## The parts directly below a selector -/

/-- The parts directly below a selector with their branches, in order. -/
def parts : Selector → List (Branch × Selector)
  | .single _ _ => []
  | .group _ members _ => members.zipIdx.map fun entry => (.member entry.2, entry.1)
  | .relation _ left right _ => [(.left, left), (.right, right)]
  | .place _ _ none _ => []
  | .place _ _ (some inner) _ => [(.inner, inner)]

theorem mem_parts_iff {selector part : Selector} {branch : Branch} :
    (branch, part) ∈ selector.parts ↔ selector.part? branch = some part := by
  cases selector with
  | single test subject => simp [parts, part?]
  | group grouping members subject =>
      cases branch <;> simp [parts, part?, List.mem_zipIdx_iff_getElem?]
  | relation combinator left right subject =>
      cases branch <;> simp [parts, part?, eq_comm]
  | place edge index of? subject =>
      cases of? <;> cases branch <;> simp [parts, part?, eq_comm]

section

variable {Holds : Branch → Selector → Prop} {subject : Bool}

theorem forall_part_group_iff {grouping : Grouping} {members : List Selector} :
    (∀ branch part, (Selector.group grouping members subject).part? branch = some part →
        Holds branch part) ↔
      ∀ member index, members[index]? = some member → Holds (.member index) member := by
  constructor
  · intro each member index found
    exact each (.member index) member found
  · intro each branch part found
    cases branch with
    | member index => exact each part index found
    | _ => cases found

theorem forall_part_relation_iff {combinator : Combinator} {left right : Selector} :
    (∀ branch part, (Selector.relation combinator left right subject).part? branch = some part →
        Holds branch part) ↔ Holds .left left ∧ Holds .right right := by
  constructor
  · intro each
    exact ⟨each .left left rfl, each .right right rfl⟩
  · rintro ⟨ofLeft, ofRight⟩ branch part found
    cases branch <;> cases found
    · exact ofLeft
    · exact ofRight

theorem forall_part_place_iff {edge : Edge} {index : Nat} {of? : Option Selector} :
    (∀ branch part, (Selector.place edge index of? subject).part? branch = some part →
        Holds branch part) ↔ ∀ inner ∈ of?, Holds .inner inner := by
  constructor
  · intro each inner found
    exact each .inner inner found
  · intro each branch part found
    cases branch with
    | inner => exact each part found
    | _ => cases found

end

theorem pairwise_parts (selector : Selector) :
    selector.parts.Pairwise fun left right => left.1.Before right.1 := by
  cases selector with
  | single test subject => exact .nil
  | group grouping members subject =>
      have ascending : (members.zipIdx.map Prod.snd).Pairwise (· < ·) := by
        rw [List.zipIdx_map_snd]
        exact List.pairwise_lt_range'
      rw [List.pairwise_map] at ascending
      rw [parts, List.pairwise_map]
      exact ascending.imp .members
  | relation combinator left right subject =>
      exact List.pairwise_pair.mpr .sides
  | place edge index of? subject =>
      cases of? with
      | none => exact .nil
      | some inner => exact List.pairwise_singleton _ _

theorem sizeOf_part_lt {selector part : Selector} {branch : Branch}
    (found : selector.part? branch = some part) : sizeOf part < sizeOf selector := by
  cases selector with
  | single test subject => cases found
  | group grouping members subject =>
      cases branch with
      | member index =>
          have within := List.sizeOf_lt_of_mem (List.mem_of_getElem? found)
          simp only [Selector.group.sizeOf_spec]
          omega
      | _ => cases found
  | relation combinator left right subject =>
      cases branch <;> cases found <;> simp only [Selector.relation.sizeOf_spec] <;> omega
  | place edge index of? subject =>
      cases branch <;> cases found
      simp only [Selector.place.sizeOf_spec, Option.some.sizeOf_spec]
      omega

/-- What holds of a selector whenever it holds of the parts directly below holds of every selector. -/
theorem part_induction {motive : Selector → Prop}
    (step : ∀ selector, (∀ branch part, selector.part? branch = some part → motive part) →
      motive selector) (selector : Selector) : motive selector := by
  refine step selector fun branch part found => ?_
  have smaller := sizeOf_part_lt found
  exact part_induction step part
termination_by sizeOf selector

end SyntaxQuery.Selector
