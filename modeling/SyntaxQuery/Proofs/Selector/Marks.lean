import SyntaxQuery.Selector.Subjects

/-!
Contract: the marks in a selector.

Owns: whether anything in a selector is marked, at any depth, and that exactly the selectors without
marks have no fragments.
Does not own: which fragments the marks stand for.
-/

namespace SyntaxQuery.Selector

mutual

/-- Whether a selector or a part of it, at any depth, is marked. -/
def hasMark : Selector → Bool
  | .single _ subject => subject
  | .group _ members subject => subject || anyHasMark members
  | .relation _ left right subject => subject || hasMark left || hasMark right
  | .place _ _ none subject => subject
  | .place _ _ (some inner) subject => subject || hasMark inner

/-- Whether anything in one of several selectors is marked. -/
def anyHasMark : List Selector → Bool
  | [] => false
  | first :: rest => hasMark first || anyHasMark rest

end

theorem own_eq_nil_iff (scope : Selector) (subject : Bool) :
    own scope subject = [] ↔ subject = false := by
  cases subject <;> simp [own]

/-- Nothing in the selector is marked. -/
def Unmarked (selector : Selector) : Prop :=
  selector.hasMark = false

instance (selector : Selector) : Decidable selector.Unmarked :=
  inferInstanceAs (Decidable (selector.hasMark = false))

mutual

theorem fragments_of_unmarked (scope : Selector) :
    ∀ selector : Selector, selector.hasMark = false → fragments scope selector = []
  | .single _ subject, unmarked => by
      rw [hasMark] at unmarked
      rw [fragments, own, unmarked]
      rfl
  | .group _ members subject, unmarked => by
      rw [hasMark, Bool.or_eq_false_iff] at unmarked
      rw [fragments, own, unmarked.1, memberFragments_of_unmarked scope members unmarked.2]
      rfl
  | .relation _ left right subject, unmarked => by
      rw [hasMark, Bool.or_eq_false_iff, Bool.or_eq_false_iff] at unmarked
      obtain ⟨⟨ownUnmarked, leftUnmarked⟩, rightUnmarked⟩ := unmarked
      rw [fragments, own, ownUnmarked, fragments_of_unmarked left left leftUnmarked,
        fragments_of_unmarked scope right rightUnmarked]
      rfl
  | .place _ _ none subject, unmarked => by
      rw [hasMark] at unmarked
      rw [fragments, own, unmarked]
      rfl
  | .place _ _ (some inner) subject, unmarked => by
      rw [hasMark, Bool.or_eq_false_iff] at unmarked
      rw [fragments, own, unmarked.1, fragments_of_unmarked scope inner unmarked.2]
      rfl

theorem memberFragments_of_unmarked (scope : Selector) :
    ∀ members : List Selector, anyHasMark members = false → memberFragments scope members = []
  | [], _ => rfl
  | first :: rest, unmarked => by
      rw [anyHasMark, Bool.or_eq_false_iff] at unmarked
      rw [memberFragments, fragments_of_unmarked scope first unmarked.1,
        memberFragments_of_unmarked scope rest unmarked.2]
      rfl

end

mutual

theorem hasMark_of_fragments_eq_nil (scope : Selector) :
    ∀ selector : Selector, fragments scope selector = [] → selector.hasMark = false
  | .single _ subject, isNil => by
      rw [fragments, own_eq_nil_iff] at isNil
      rw [hasMark, isNil]
  | .group _ members subject, isNil => by
      rw [fragments, List.append_eq_nil_iff, own_eq_nil_iff] at isNil
      rw [hasMark, isNil.1, anyHasMark_of_memberFragments_eq_nil scope members isNil.2]
      rfl
  | .relation _ left right subject, isNil => by
      rw [fragments, List.append_eq_nil_iff, List.append_eq_nil_iff, own_eq_nil_iff] at isNil
      obtain ⟨⟨ownNone, leftNone⟩, rightNone⟩ := isNil
      rw [hasMark, ownNone, hasMark_of_fragments_eq_nil left left leftNone,
        hasMark_of_fragments_eq_nil scope right rightNone]
      rfl
  | .place _ _ none subject, isNil => by
      rw [fragments, own_eq_nil_iff] at isNil
      rw [hasMark, isNil]
  | .place _ _ (some inner) subject, isNil => by
      rw [fragments, List.append_eq_nil_iff, own_eq_nil_iff] at isNil
      rw [hasMark, isNil.1, hasMark_of_fragments_eq_nil scope inner isNil.2]
      rfl

theorem anyHasMark_of_memberFragments_eq_nil (scope : Selector) :
    ∀ members : List Selector, memberFragments scope members = [] → anyHasMark members = false
  | [], _ => rfl
  | first :: rest, isNil => by
      rw [memberFragments, List.append_eq_nil_iff] at isNil
      rw [anyHasMark, hasMark_of_fragments_eq_nil scope first isNil.1,
        anyHasMark_of_memberFragments_eq_nil scope rest isNil.2]
      rfl

end

/-- A selector without marks has no fragments. -/
theorem subjects_of_unmarked {selector : Selector} (unmarked : selector.Unmarked) :
    selector.subjects = [] :=
  fragments_of_unmarked selector selector unmarked

/-- A selector with a mark anywhere has a fragment. -/
theorem subjects_ne_nil_of_hasMark {selector : Selector} (marked : selector.hasMark = true) :
    selector.subjects ≠ [] := by
  intro isNil
  rw [hasMark_of_fragments_eq_nil selector selector isNil] at marked
  cases marked

end SyntaxQuery.Selector
