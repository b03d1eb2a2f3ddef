import SyntaxQuery.Proofs.Decimal.Numbers
import SyntaxQuery.Proofs.Json.Keys
import SyntaxQuery.Proofs.Json.Scanning

/-!
Contract: the numbers in JSON values.

Owns: which numbers JSON holds, and that every number of a value that is read is one of them.
Does not own: which double is nearest to a numeral.
-/

namespace SyntaxQuery.Json

/-- A number as JSON holds it: an integer of 64 bits, signed or not, or a finite double. -/
def Number.IsRepresentable : Number → Prop
  | .integer value => -2 ^ 63 ≤ value ∧ value < 2 ^ 64
  | .double value => value.isFinite = true

theorem Number.IsRepresentable.isFinite_toFloat {number : Number}
    (representable : number.IsRepresentable) : number.toFloat.isFinite = true := by
  cases number with
  | integer value =>
      obtain ⟨lower, upper⟩ := representable
      exact isFinite_floatOfInt (by omega)
  | double value => exact representable

mutual

/-- The numbers in a value, at any depth. -/
def numbers : Json → List Number
  | .number value => [value]
  | .array items => itemNumbers items
  | .object members => memberNumbers members
  | _ => []

/-- The numbers in the elements of an array. -/
def itemNumbers : List Json → List Number
  | [] => []
  | item :: rest => numbers item ++ itemNumbers rest

/-- The numbers in the members of an object. -/
def memberNumbers : List (String × Json) → List Number
  | [] => []
  | (_, value) :: rest => numbers value ++ memberNumbers rest

end

theorem mem_numbers_array_iff {items : List Json} {number : Number} :
    number ∈ (Json.array items).numbers ↔ ∃ item ∈ items, number ∈ item.numbers := by
  rw [numbers]
  induction items with
  | nil => simp [itemNumbers]
  | cons item rest inductionHypothesis => simp [itemNumbers, inductionHypothesis]

theorem mem_numbers_object_iff {members : List (String × Json)} {number : Number} :
    number ∈ (Json.object members).numbers ↔ ∃ member ∈ members, number ∈ member.2.numbers := by
  rw [numbers]
  induction members with
  | nil => simp [memberNumbers]
  | cons member rest inductionHypothesis => simp [memberNumbers, inductionHypothesis]

/-- Every number in the value is one that JSON holds. -/
def IsRepresentable (value : Json) : Prop :=
  ∀ number ∈ value.numbers, number.IsRepresentable

theorem IsRepresentable.member {members : List (String × Json)} {key : String} {value : Json}
    (representable : (Json.object members).IsRepresentable)
    (found : lookup? key members = some value) : value.IsRepresentable := by
  intro number inValue
  apply representable
  exact mem_numbers_object_iff.mpr ⟨(key, value), mem_of_lookup? found, inValue⟩

theorem IsRepresentable.item {items : List Json} {item : Json}
    (representable : (Json.array items).IsRepresentable) (isItem : item ∈ items) :
    item.IsRepresentable := by
  intro number inItem
  apply representable
  exact mem_numbers_array_iff.mpr ⟨item, isItem, inItem⟩

/-! ## Numbers that are read -/

theorem Number.OfNumeral.isRepresentable {number : Number} (ofNumeral : number.OfNumeral) :
    number.IsRepresentable := by
  rcases ofNumeral with ⟨value, inRange, rfl⟩ | ⟨decimal, found⟩
  · exact integerRange_iff.mp inRange
  · obtain ⟨notInfinite, same⟩ := Option.ite_none_left_eq_some.mp found
    cases same
    exact Decimal.isFinite_toFloat (Bool.eq_false_of_not_eq_true notInfinite)

theorem kept_isRepresentable : Kept fun _ value => value.IsRepresentable where
  null _ _ inNull := absurd inNull List.not_mem_nil
  bool _ _ _ inBool := absurd inBool List.not_mem_nil
  string _ _ _ inString := absurd inString List.not_mem_nil
  noItems _ _ inItems := absurd inItems List.not_mem_nil
  append {_ items item} before representable number inItems := by
    obtain ⟨held, isHeld, inHeld⟩ := mem_numbers_array_iff.mp inItems
    rcases List.mem_append.mp isHeld with earlier | last
    · exact before.item earlier number inHeld
    · rw [List.mem_singleton.mp last] at inHeld
      exact representable number inHeld
  noMembers _ _ inMembers := absurd inMembers List.not_mem_nil
  put {_ members value} before representable key number inMembers := by
    obtain ⟨member, isMember, inMember⟩ := mem_numbers_object_iff.mp inMembers
    rcases mem_put isMember with rfl | earlier
    · exact representable number inMember
    · exact before number (mem_numbers_object_iff.mpr ⟨member, earlier, inMember⟩)

/-- Every number of a value that was read is one that JSON holds. -/
theorem isRepresentable_of_parse? {text : String} {value : Json} (read : parse? text = some value) :
    value.IsRepresentable := by
  refine kept_isRepresentable.of_parse? ?_ read
  intro tokens number scanned isToken _ other isNumber
  obtain ⟨numeral, spelled⟩ := fromNumerals_of_scan? scanned number isToken
  rw [List.mem_singleton.mp isNumber]
  exact (chars_and_number_of_numeral? spelled).2.isRepresentable

end SyntaxQuery.Json
