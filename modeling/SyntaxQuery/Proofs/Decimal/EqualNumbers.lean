import Mathlib
import SyntaxQuery.Tree.Value

/-!
Contract: doubles that are equal as numbers cannot be told apart by attribute tests.

Equal doubles are the same double or the two zeros. Zero is compared and written without regard to
its sign.

Does not own: doubles that are no numbers, which equal nothing.
-/

namespace SyntaxQuery

open Float.Model
open Float.Model.UnpackedFloat

theorem pack_unpack_toModel (number : Float) :
    Float.ofModel (Float.Model.pack number.toModel.unpack) = number := by
  obtain ⟨⟨bits, valid⟩⟩ := number
  have samePacked : UnpackedFloat.pack .binary64 (UnpackedFloat.unpack .binary64 bits.toBitVec) =
      bits.toBitVec := pack_unpack_of_valid valid
  simp only [Float.Model.pack, Float.Model.unpack, samePacked]

theorem eq_of_unpack_eq {left right : Float}
    (same : left.toModel.unpack = right.toModel.unpack) : left = right := by
  rw [← pack_unpack_toModel left, same, pack_unpack_toModel]

/-- Equal doubles are the same double, or one is each zero. -/
theorem eq_or_zeros_of_beq {left right : Float} (same : (left == right) = true) :
    left = right ∨ (left = 0 ∧ right = -0) ∨ (left = -0 ∧ right = 0) := by
  have unpacked : left.toModel.unpack.beq right.toModel.unpack = true := same
  rw [beq_iff_ne_notANumber_and_eq] at unpacked
  obtain ⟨_, _, isSame | ⟨isZero, isOther⟩ | ⟨isZero, isOther⟩⟩ := unpacked
  · exact .inl (eq_of_unpack_eq isSame)
  · exact .inr (.inl ⟨eq_of_unpack_eq isZero, eq_of_unpack_eq isOther⟩)
  · exact .inr (.inr ⟨eq_of_unpack_eq isZero, eq_of_unpack_eq isOther⟩)

theorem lt_iff_compare {left right : Float} :
    left < right ↔ left.toModel.unpack.compare right.toModel.unpack = some .lt := by
  show decide (left.toModel < right.toModel) = true ↔ _
  rw [decide_eq_true_iff]
  exact beq_iff_eq

theorem compare_zero_right (number : UnpackedFloat) :
    number.compare (.zero .negative) = number.compare (.zero .positive) := by
  cases number with
  | notANumber => rfl
  | _ sign => cases sign <;> rfl

theorem compare_zero_left (number : UnpackedFloat) :
    UnpackedFloat.compare (.zero .negative) number =
      UnpackedFloat.compare (.zero .positive) number := by
  cases number with
  | notANumber => rfl
  | _ sign => cases sign <;> rfl

/-- A number compares with both zeros alike. -/
theorem compareNumbers_negative_zero (number : Float) :
    Primitive.compareNumbers number (-0) = Primitive.compareNumbers number 0 := by
  have below : number < -0 ↔ number < 0 := by
    rw [lt_iff_compare, lt_iff_compare]
    exact Eq.congr_left (compare_zero_right _)
  have above : -0 < number ↔ 0 < number := by
    rw [lt_iff_compare, lt_iff_compare]
    exact Eq.congr_left (compare_zero_left _)
  have same : (number == -0) = (number == 0) :=
    congrArg (· == some Ordering.eq) (compare_zero_right number.toModel.unpack)
  simp only [Primitive.compareNumbers, below, above, same]

theorem compareNumbers_congr {left right : Float} (same : (left == right) = true) (number : Float) :
    Primitive.compareNumbers number left = Primitive.compareNumbers number right := by
  rcases eq_or_zeros_of_beq same with rfl | ⟨rfl, rfl⟩ | ⟨rfl, rfl⟩
  · rfl
  · exact (compareNumbers_negative_zero number).symm
  · exact compareNumbers_negative_zero number

theorem attributeText_congr {left right : Float} (same : (left == right) = true) :
    Decimal.attributeText left = Decimal.attributeText right := by
  rcases eq_or_zeros_of_beq same with rfl | ⟨rfl, rfl⟩ | ⟨rfl, rfl⟩
  · rfl
  · decide +kernel
  · decide +kernel

end SyntaxQuery
