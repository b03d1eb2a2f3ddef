import SyntaxQuery.Proofs.Decimal.Digits
import SyntaxQuery.Query.Path

/-!
Contract: the steps of a path through records, lists and scalars.

Owns:
- the decimal numerals of indices, which lists understand and which are no other segments;
- where the first step of a path leads, by the value it is taken from;
- that no path leads from a scalar to a record.

Does not own: which path is followed.
-/

namespace SyntaxQuery

/-- The text is a decimal numeral of the number, with zeros in front or not. -/
def IsNumeral (text : String) (number : Nat) : Prop :=
  ∃ zeros, text.toList = List.replicate zeros '0' ++ Nat.toDigits 10 number

namespace IsNumeral

theorem repr (number : Nat) : IsNumeral (Nat.repr number) number :=
  ⟨0, Nat.toList_repr⟩

variable {numeral : String} {number : Nat}

theorem isDecimalDigit_of_mem (isNumeral : IsNumeral numeral number) :
    ∀ character ∈ numeral.toList, isDecimalDigit character = true := by
  obtain ⟨zeros, isText⟩ := isNumeral
  rw [isText]
  intro character member
  rcases List.mem_append.mp member with isZero | isDigit
  · rw [List.eq_of_mem_replicate isZero]
    rfl
  · exact isDecimalDigit_of_mem_toDigits isDigit

theorem not_mem (isNumeral : IsNumeral numeral number) (character : Char)
    (noDigit : isDecimalDigit character = false) : character ∉ numeral.toList := by
  intro member
  rw [isNumeral.isDecimalDigit_of_mem character member] at noDigit
  cases noDigit

theorem ne_length (isNumeral : IsNumeral numeral number) : numeral ≠ "length" := by
  rintro rfl
  exact isNumeral.not_mem 'l' rfl (by decide)

theorem indexOfSegment?_eq (isNumeral : IsNumeral numeral number) :
    indexOfSegment? numeral = some number := by
  have allDigits := isNumeral.isDecimalDigit_of_mem
  have noPlus := isNumeral.not_mem '+' rfl
  obtain ⟨zeros, isText⟩ := isNumeral
  unfold indexOfSegment?
  split
  · next digits isPlus =>
      rw [isPlus] at noPlus
      exact absurd List.mem_cons_self noPlus
  · have notEmpty : numeral.toList ≠ [] := by
      rw [isText]
      exact List.append_ne_nil_of_right_ne_nil _ Nat.toDigits_ne_nil
    rw [if_neg notEmpty, natOfDigits?_ten allDigits, isText, natOfDigits_zeros_append,
      natOfDigits_toDigits]

end IsNumeral

namespace Value

variable {ν : Type} {value : Value ν} {record : ν}

theorem isPresent_of_record? (isRecord : value.record? = some record) : value.isPresent = true := by
  cases value with
  | node held => rfl
  | object held => rfl
  | _ => cases isRecord

theorem eq_list_of_list? {items : List (Value ν)} (isList : value.list? = some items) :
    value = .list items := by
  cases value with
  | list others =>
      cases isList
      rfl
  | _ => cases isList

variable [SyntaxNode ν]

theorem step_of_record? (isRecord : value.record? = some record) (segment : String) :
    value.step segment = SyntaxNode.field record segment := by
  cases value with
  | node held =>
      cases isRecord
      rfl
  | object held =>
      cases isRecord
      rfl
  | _ => cases isRecord

/-- From a record a path leads through the field of its first segment. -/
theorem follow_of_record? (isRecord : value.record? = some record) (segment : String)
    (rest : List String) :
    value.follow (segment :: rest) = (SyntaxNode.field record segment).follow rest := by
  rw [follow, if_pos (isPresent_of_record? isRecord), step_of_record? isRecord]

/-- From a list a numeral in its range leads on from the element. -/
theorem follow_list {items : List (Value ν)} {item : Value ν} {numeral : String} {index : Nat}
    (isNumeral : IsNumeral numeral index) (atIndex : items[index]? = some item)
    (rest : List String) :
    (Value.list items).follow (numeral :: rest) = item.follow rest := by
  have stepsTo : (Value.list items).step numeral = item := by
    rw [step, if_neg isNumeral.ne_length, isNumeral.indexOfSegment?_eq, Option.bind_some, atIndex,
      Option.getD_some]
  show ((Value.list items).step numeral).follow rest = item.follow rest
  rw [stepsTo]

/-- Neither a record nor a list: nothing that a segment leads to is one either. -/
theorem step_scalar (noRecord : value.record? = none) (noList : value.list? = none)
    (segment : String) :
    (value.step segment).record? = none ∧ (value.step segment).list? = none := by
  cases value with
  | node held => cases noRecord
  | object held => cases noRecord
  | list items => cases noList
  | string text =>
      rw [step]
      split <;> exact ⟨rfl, rfl⟩
  | _ => exact ⟨rfl, rfl⟩

theorem record?_follow_scalar (noRecord : value.record? = none) (noList : value.list? = none)
    (segments : List String) : (value.follow segments).record? = none := by
  induction segments generalizing value with
  | nil => exact noRecord
  | cons segment rest inductionHypothesis =>
      rw [follow]
      split
      · obtain ⟨nextNoRecord, nextNoList⟩ := step_scalar noRecord noList segment
        exact inductionHypothesis nextNoRecord nextNoList
      · exact noRecord

end Value

end SyntaxQuery
