import SyntaxQuery.Document.Node

/-!
Contract: documents without the inert values under a name.

A value is inert if no child can come from it. The removal works at any depth and leaves other keys
in their places, so a key is looked up after it as before, except for the name itself, under which
nothing inert is left.

Owns: the removal, keys and type tags after it.
Does not own: what it means for queries.
-/

namespace SyntaxQuery

namespace Json

/-- Whether no child can come from a value: it is no syntax node, and no array with a syntax node
among its elements. -/
def isInert : Json → Bool
  | .array items => items.all fun item => !item.isSyntaxNode
  | value => !value.isSyntaxNode

/-- Whether some members have an inert value under a name, or none. -/
def inertUnder (name : String) (members : List (String × Json)) : Bool :=
  (lookup? name members).all isInert

mutual

/-- The value without the inert values under a name, at any depth. What is not inert keeps its place
under the name. -/
def without (name : String) : Json → Json
  | .array items => .array (withoutItems name items)
  | .object members => .object (withoutMembers name (inertUnder name members) members)
  | value => value

def withoutItems (name : String) : List Json → List Json
  | [] => []
  | item :: rest => without name item :: withoutItems name rest

/-- The members, with those under the name dropped or not. -/
def withoutMembers (name : String) (dropped : Bool) : List (String × Json) → List (String × Json)
  | [] => []
  | (key, value) :: rest =>
      if dropped && key == name then withoutMembers name dropped rest
      else (key, without name value) :: withoutMembers name dropped rest

end

variable {name : String}

/-! ## Keys -/

/-- The value under a key that is not dropped is what the value there becomes. -/
theorem lookup?_withoutMembers_of_kept {key : String} {dropped : Bool}
    (kept : (dropped && key == name) = false) (members : List (String × Json)) :
    lookup? key (withoutMembers name dropped members) =
      (lookup? key members).map (without name) := by
  induction members with
  | nil => rfl
  | cons first rest inductionHypothesis =>
      obtain ⟨firstKey, value⟩ := first
      rw [withoutMembers, lookup?]
      by_cases isFirst : firstKey = key
      · rw [isFirst, if_pos rfl, kept]
        exact if_pos rfl
      · rw [if_neg isFirst, ← inductionHypothesis]
        split
        · rfl
        · exact if_neg isFirst

theorem lookup?_withoutMembers_dropped (members : List (String × Json)) :
    lookup? name (withoutMembers name true members) = none := by
  induction members with
  | nil => rfl
  | cons first rest inductionHypothesis =>
      obtain ⟨key, value⟩ := first
      rw [withoutMembers, Bool.true_and]
      split
      · exact inductionHypothesis
      · next other =>
          rw [lookup?, if_neg fun same => other (beq_iff_eq.mpr same), inductionHypothesis]

/-- What stands under another key becomes what the value there becomes. -/
theorem member?_without_of_ne {key : String} (other : key ≠ name) (value : Json) :
    (value.without name).member? key = (value.member? key).map (without name) := by
  cases value with
  | object members =>
      refine lookup?_withoutMembers_of_kept ?_ members
      rw [beq_eq_false_iff_ne.mpr other, Bool.and_false]
  | _ => rfl

theorem filter_lookup?_of_inertUnder (members : List (String × Json)) :
    ((lookup? name members).filter fun held => !held.isInert) =
      if inertUnder name members then none else lookup? name members := by
  unfold inertUnder
  cases lookup? name members with
  | none => rfl
  | some held => cases inert : held.isInert <;> simp [inert]

/-- Under the name nothing inert is left, and what is not inert becomes what the value there
becomes. -/
theorem member?_without_self (value : Json) :
    (value.without name).member? name =
      ((value.member? name).filter fun held => !held.isInert).map (without name) := by
  cases value with
  | object members =>
      rw [without, member?, member?, filter_lookup?_of_inertUnder]
      cases inertUnder name members with
      | true => exact lookup?_withoutMembers_dropped members
      | false => exact lookup?_withoutMembers_of_kept (Bool.false_and _) members
  | _ => rfl

/-! ## Type tags -/

theorem string?_without (value : Json) : (value.without name).string? = value.string? := by
  cases value <;> rfl

theorem isSyntaxNode_eq_string? (value : Json) :
    value.isSyntaxNode = ((value.member? "type").bind string?).isSome := by
  unfold isSyntaxNode
  cases value.member? "type" with
  | none => rfl
  | some held => cases held <;> rfl

variable (notType : name ≠ "type")

include notType

/-- The type tag of a value stays what it is. -/
theorem tag_without (value : Json) :
    ((value.without name).member? "type").bind string? = (value.member? "type").bind string? := by
  rw [member?_without_of_ne notType.symm]
  cases value.member? "type" with
  | none => rfl
  | some held => exact string?_without held

theorem isSyntaxNode_without (value : Json) :
    (value.without name).isSyntaxNode = value.isSyntaxNode := by
  rw [isSyntaxNode_eq_string?, isSyntaxNode_eq_string?, tag_without notType]

end Json

end SyntaxQuery
