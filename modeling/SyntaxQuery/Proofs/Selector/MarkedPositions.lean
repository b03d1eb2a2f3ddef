import Mathlib.Data.List.Forall2
import SyntaxQuery.Proofs.Selector.Positions
import SyntaxQuery.Selector.Subjects

/-!
Contract: the fragments of a selector by the positions of its marks.

There is one fragment for each marked part, in the order of their positions, in which a part comes
before those below it and the left side before the right. The fragment of a mark is found by the
position alone: it is the part at the longest way to the mark that ends in a left side, and the whole
selector if the mark is on no left side. The recursion carries the innermost left side along as a
scope; `scopedPart?` says of a position below a part which selector that is.

Does not own: testing nodes.
-/

namespace SyntaxQuery.Selector

/-! ## The positions of marks -/

/-- The position of a part itself, if the part is marked. -/
def ownMark (subject : Bool) : List (List Branch) :=
  if subject then [[]] else []

mutual

/-- The positions of the marked parts of a selector, in the order of the fragments. -/
def marks : Selector → List (List Branch)
  | .single _ subject => ownMark subject
  | .group _ members subject => ownMark subject ++ memberMarks 0 members
  | .relation _ left right subject =>
      ownMark subject ++ (marks left).map (.left :: ·) ++ (marks right).map (.right :: ·)
  | .place _ _ none subject => ownMark subject
  | .place _ _ (some inner) subject => ownMark subject ++ (marks inner).map (.inner :: ·)

/-- The positions of the marks in members of a group, the first of which has the given index. -/
def memberMarks (index : Nat) : List Selector → List (List Branch)
  | [] => []
  | first :: rest => (marks first).map (.member index :: ·) ++ memberMarks (index + 1) rest

end

theorem memberMarks_eq (index : Nat) (members : List Selector) :
    memberMarks index members =
      (members.zipIdx index).flatMap fun entry => (marks entry.1).map (.member entry.2 :: ·) := by
  induction members generalizing index with
  | nil => rfl
  | cons first rest inductionHypothesis =>
      rw [memberMarks, inductionHypothesis, List.zipIdx_cons, List.flatMap_cons]

theorem marks_eq (selector : Selector) :
    selector.marks =
      ownMark selector.subject ++
        selector.parts.flatMap fun entry => (marks entry.2).map (entry.1 :: ·) := by
  cases selector with
  | single test subject => simp [marks, parts, Selector.subject]
  | group grouping members subject =>
      rw [marks, memberMarks_eq, parts, List.flatMap_map]
      rfl
  | relation combinator left right subject => simp [marks, parts, Selector.subject]
  | place edge index of? subject => cases of? <;> simp [marks, parts, Selector.subject]

/-- The marks are at the positions of the marked parts. -/
theorem mem_marks_iff {selector : Selector} {position : List Branch} :
    position ∈ selector.marks ↔
      ∃ part, selector.at? position = some part ∧ part.subject = true := by
  induction selector using part_induction generalizing position with
  | step selector inductionHypothesis =>
      rw [marks_eq, List.mem_append]
      cases position with
      | nil => cases marked : selector.subject <;> simp [ownMark, at?, marked]
      | cons branch rest =>
          have notOwn : branch :: rest ∉ ownMark selector.subject := by
            cases selector.subject <;> simp [ownMark]
          rw [at?, or_iff_right notOwn]
          constructor
          · intro below
            obtain ⟨⟨head, part⟩, isPart, inPart⟩ := List.mem_flatMap.mp below
            obtain ⟨mark, isMark, same⟩ := List.mem_map.mp inPart
            cases same
            rw [mem_parts_iff] at isPart
            rw [isPart]
            exact (inductionHypothesis head part isPart).mp isMark
          · rintro ⟨marked, atRest, isMarked⟩
            obtain ⟨part, isPart, atPart⟩ := Option.bind_eq_some_iff.mp atRest
            have isMark := (inductionHypothesis branch part isPart).mpr ⟨marked, atPart, isMarked⟩
            exact List.mem_flatMap.mpr
              ⟨(branch, part), mem_parts_iff.mpr isPart, List.mem_map_of_mem isMark⟩

/-- The marks come in the lexicographic order of their positions. -/
theorem pairwise_marks (selector : Selector) :
    selector.marks.Pairwise (List.Lex Branch.Before) := by
  induction selector using part_induction with
  | step selector inductionHypothesis =>
      rw [marks_eq, List.pairwise_append]
      refine ⟨?_, ?_, ?_⟩
      · cases selector.subject <;> simp [ownMark]
      · rw [List.pairwise_flatMap]
        constructor
        · rintro ⟨branch, part⟩ isPart
          have below := inductionHypothesis branch part (mem_parts_iff.mp isPart)
          exact List.pairwise_map.mpr (below.imp .cons)
        · apply (pairwise_parts selector).imp
          intro left right before mark inLeft later inRight
          obtain ⟨_, _, rfl⟩ := List.mem_map.mp inLeft
          obtain ⟨_, _, rfl⟩ := List.mem_map.mp inRight
          exact .rel before
      · -- The part itself has the empty position, before all positions below.
        intro own isOwn below isBelow
        obtain ⟨_, _, inPart⟩ := List.mem_flatMap.mp isBelow
        obtain ⟨_, _, rfl⟩ := List.mem_map.mp inPart
        cases marked : selector.subject <;> simp [ownMark, marked] at isOwn
        rw [isOwn]
        exact .nil

theorem nodup_marks (selector : Selector) : selector.marks.Nodup := by
  apply (pairwise_marks selector).imp
  intro position later before
  induction before with
  | nil => simp
  | cons _ inductionHypothesis => simpa using inductionHypothesis
  | rel before => simp [before.ne]

/-! ## The scope of a position -/

/-- A way ends by entering a left side. -/
def EntersLeft (way : List Branch) : Prop :=
  way.getLast? = some .left

/-- The longest way to a position that ends by entering a left side, or the empty way if there is
none. -/
structure IsScope (scope position : List Branch) : Prop where
  onWay : scope <+: position
  enters : scope = [] ∨ EntersLeft scope
  longest : ∀ way, way <+: position → EntersLeft way → way <+: scope

/-- The scope of a position, from the scope of the rest of the way. -/
def scopeOf : List Branch → List Branch
  | [] => []
  | branch :: rest => if scopeOf rest = [] ∧ branch ≠ .left then [] else branch :: scopeOf rest

theorem not_entersLeft_nil : ¬ EntersLeft [] := by
  simp [EntersLeft]

theorem entersLeft_cons {branch : Branch} {rest : List Branch} (nonempty : rest ≠ []) :
    EntersLeft (branch :: rest) ↔ EntersLeft rest := by
  cases rest with
  | nil => exact absurd rfl nonempty
  | cons next rest => rw [EntersLeft, List.getLast?_cons_cons, EntersLeft]

theorem isScope_scopeOf (position : List Branch) : IsScope (scopeOf position) position := by
  induction position with
  | nil => exact ⟨List.prefix_rfl, .inl rfl, fun _ isPrefix _ => isPrefix⟩
  | cons branch rest inductionHypothesis =>
      obtain ⟨onWay, enters, longest⟩ := inductionHypothesis
      -- A way that ends in a left side is that branch alone or ends in one on the rest of the way.
      have split_way {way : List Branch} (isPrefix : way <+: branch :: rest)
          (entersWay : EntersLeft way) :
          (way = [branch] ∧ branch = .left) ∨
            ∃ below, way = branch :: below ∧ below ≠ [] ∧ below <+: scopeOf rest := by
        rcases List.prefix_cons_iff.mp isPrefix with rfl | ⟨below, rfl, isBelow⟩
        · exact absurd entersWay not_entersLeft_nil
        · by_cases single : below = []
          · subst single
            exact .inl ⟨rfl, by simpa [EntersLeft] using entersWay⟩
          · rw [entersLeft_cons single] at entersWay
            exact .inr ⟨below, rfl, single, longest below isBelow entersWay⟩
      rw [scopeOf]
      split
      · next noScope =>
          refine ⟨List.nil_prefix, .inl rfl, ?_⟩
          intro way isPrefix entersWay
          rcases split_way isPrefix entersWay with ⟨_, isLeft⟩ | ⟨below, _, nonempty, isBelow⟩
          · exact absurd isLeft noScope.2
          · rw [noScope.1] at isBelow
            exact absurd (List.prefix_nil.mp isBelow) nonempty
      · next hasScope =>
          refine ⟨(List.prefix_cons_inj branch).mpr onWay, .inr ?_, ?_⟩
          · by_cases noScope : scopeOf rest = []
            · have isLeft : branch = .left := by
                by_contra other
                exact hasScope ⟨noScope, other⟩
              rw [noScope, isLeft]
              rfl
            · exact (entersLeft_cons noScope).mpr (enters.resolve_left noScope)
          · intro way isPrefix entersWay
            rcases split_way isPrefix entersWay with ⟨rfl, _⟩ | ⟨below, rfl, _, isBelow⟩
            · exact (List.prefix_cons_inj branch).mpr List.nil_prefix
            · exact (List.prefix_cons_inj branch).mpr isBelow

/-- The selector that a mark at a position of a part stands for, given the scope around the part. -/
def scopedPart? (scope selector : Selector) (position : List Branch) : Option Selector :=
  if scopeOf position = [] then some scope else selector.at? (scopeOf position)

theorem scopedPart?_self (selector : Selector) (position : List Branch) :
    scopedPart? selector selector position = selector.at? (scopeOf position) := by
  rw [scopedPart?]
  split
  · next noScope =>
      rw [noScope]
      rfl
  · rfl

/-- A left side is the scope of the marks in it; other parts keep the scope around them. -/
theorem scopedPart?_cons {scope selector part : Selector} {branch : Branch}
    (found : selector.part? branch = some part) (rest : List Branch) :
    scopedPart? scope selector (branch :: rest) =
      scopedPart? (if branch = .left then part else scope) part rest := by
  rw [scopedPart?, scopedPart?, scopeOf]
  by_cases noScope : scopeOf rest = []
  · by_cases isLeft : branch = .left
    · simp [noScope, isLeft, at?_cons (isLeft ▸ found), at?]
    · simp [noScope, isLeft]
  · simp [noScope, at?_cons found]

/-! ## The fragments of the marks -/

theorem memberFragments_eq (scope : Selector) (members : List Selector) :
    memberFragments scope members = members.flatMap (fragments scope) := by
  induction members with
  | nil => rfl
  | cons first rest inductionHypothesis =>
      rw [memberFragments, inductionHypothesis, List.flatMap_cons]

theorem fragments_eq (scope selector : Selector) :
    fragments scope selector =
      own scope selector.subject ++ selector.parts.flatMap fun entry =>
        fragments (if entry.1 = .left then entry.2 else scope) entry.2 := by
  cases selector with
  | single test subject => simp [fragments, parts, Selector.subject]
  | group grouping members subject =>
      have inOrder : members.flatMap (fragments scope) =
          members.zipIdx.flatMap fun entry => fragments scope entry.1 := by
        conv_lhs => rw [← List.zipIdx_map_fst 0 members, List.flatMap_map]
      rw [fragments, memberFragments_eq, inOrder, parts, List.flatMap_map]
      rfl
  | relation combinator left right subject => simp [fragments, parts, Selector.subject]
  | place edge index of? subject => cases of? <;> simp [fragments, parts, Selector.subject]

/-- Each mark of a part has the fragment that its position tells. -/
theorem map_fragments (scope selector : Selector) :
    (fragments scope selector).map some = selector.marks.map (scopedPart? scope selector) := by
  induction selector using part_induction generalizing scope with
  | step selector inductionHypothesis =>
      rw [fragments_eq, marks_eq, List.map_append, List.map_append, List.map_flatMap,
        List.map_flatMap]
      congr 1
      · cases selector.subject <;> rfl
      · apply List.flatMap_congr
        rintro ⟨branch, part⟩ isPart
        rw [mem_parts_iff] at isPart
        rw [inductionHypothesis branch part isPart, List.map_map]
        apply List.map_congr_left
        intro rest _
        exact (scopedPart?_cons isPart rest).symm

/-- A fragment stands for the mark at a position: it is the part at the position's scope. -/
def StandsFor (selector : Selector) (position : List Branch) (fragment : Selector) : Prop :=
  ∃ scope, IsScope scope position ∧ selector.at? scope = some fragment

theorem map_subjects (selector : Selector) :
    selector.subjects.map some = selector.marks.map fun position => selector.at? (scopeOf position) := by
  rw [subjects, map_fragments]
  exact List.map_congr_left fun position _ => scopedPart?_self selector position

theorem forall₂_marks_subjects (selector : Selector) :
    List.Forall₂ selector.StandsFor selector.marks selector.subjects := by
  have inOrder : List.Forall₂ (· = ·)
      (selector.marks.map fun position => selector.at? (scopeOf position))
      (selector.subjects.map some) := by
    rw [List.forall₂_eq_eq_eq]
    exact (map_subjects selector).symm
  rw [List.forall₂_map_left_iff, List.forall₂_map_right_iff] at inOrder
  apply inOrder.imp
  intro position fragment found
  exact ⟨scopeOf position, isScope_scopeOf position, found⟩

theorem exists_standsFor_of_mem_subjects {selector fragment : Selector}
    (isFragment : fragment ∈ selector.subjects) : ∃ position, selector.StandsFor position fragment := by
  have isMapped := List.mem_map_of_mem (f := some) isFragment
  rw [map_subjects] at isMapped
  obtain ⟨position, _, found⟩ := List.mem_map.mp isMapped
  exact ⟨position, scopeOf position, isScope_scopeOf position, found⟩

/-- A selector that stands for a mark is the whole or a left side in it. -/
theorem StandsFor.whole_or_left {selector fragment : Selector} {position : List Branch}
    (stands : selector.StandsFor position fragment) :
    fragment = selector ∨ ∃ way combinator right subject,
      selector.at? way = some (.relation combinator fragment right subject) := by
  obtain ⟨scope, isScope, found⟩ := stands
  rcases isScope.enters with rfl | enters
  · cases found
    exact .inl rfl
  · right
    obtain ⟨way, rfl⟩ : ∃ way, scope = way ++ [.left] :=
      ⟨scope.dropLast, (List.dropLast_append_getLast? _ enters).symm⟩
    rw [at?_append] at found
    obtain ⟨above, aboveFound, leftFound⟩ := Option.bind_eq_some_iff.mp found
    obtain ⟨left, isLeft, same⟩ := Option.bind_eq_some_iff.mp leftFound
    cases same
    obtain ⟨combinator, right, subject, rfl⟩ := part?_left_iff.mp isLeft
    exact ⟨way, combinator, right, subject, aboveFound⟩

/-- The fragments of a selector, one for each marked part in the order of the positions. Each is the
part at the longest way to its mark that ends in a left side, and the selector itself where the mark
is on no left side. There are none exactly if nothing is marked. -/
theorem subjects_of_marks (selector : Selector) :
    (∀ position, position ∈ selector.marks ↔
        ∃ part, selector.at? position = some part ∧ part.subject = true) ∧
      selector.marks.Nodup ∧ selector.marks.Pairwise (List.Lex Branch.Before) ∧
      List.Forall₂ selector.StandsFor selector.marks selector.subjects ∧
      (∀ fragment ∈ selector.subjects, fragment = selector ∨ ∃ way combinator right subject,
        selector.at? way = some (.relation combinator fragment right subject)) ∧
      (selector.subjects = [] ↔
        ∀ position part, selector.at? position = some part → part.subject = false) := by
  have stands := forall₂_marks_subjects selector
  refine ⟨fun _ => mem_marks_iff, nodup_marks selector, pairwise_marks selector, stands, ?_, ?_⟩
  · intro fragment isFragment
    obtain ⟨position, standsFor⟩ := exists_standsFor_of_mem_subjects isFragment
    exact standsFor.whole_or_left
  · rw [← List.length_eq_zero_iff, ← stands.length_eq, List.length_eq_zero_iff,
      List.eq_nil_iff_forall_not_mem]
    constructor
    · intro none position part found
      by_contra marked
      exact none position (mem_marks_iff.mpr ⟨part, found, by simpa using marked⟩)
    · intro unmarked position isMark
      obtain ⟨part, found, marked⟩ := mem_marks_iff.mp isMark
      rw [unmarked position part found] at marked
      cases marked

end SyntaxQuery.Selector
