import SyntaxQuery.Proofs.Decimal.Rounding

/-!
Contract: arithmetic on the doubles of natural numbers.

A double with fifty-three bits, or zero, stands for one natural number at most (`IsDoubleOf`), and
sums and products of such doubles are the doubles nearest to the sum and the product. The double
nearest to a number stands for that number with its further bits rounded off (`roundedNat`).

Does not own: numerals.
-/

namespace SyntaxQuery

open Float.Model
open Float.Model.UnpackedFloat

/-- The unpacked double stands for the number: it is zero, or its fifty-three bits and the bits of
the number differ by the exponent. -/
inductive IsDoubleOf : UnpackedFloat → Nat → Prop
  | zero : IsDoubleOf (.zero .positive) 0
  | finite {mantissa number up down : Nat} {exponent : Int} (positive : 0 < mantissa)
      (lower : 2 ^ 52 ≤ mantissa) (upper : mantissa < 2 ^ 53) (isExponent : exponent = up - down)
      (same : mantissa * 2 ^ up = number * 2 ^ down) :
      IsDoubleOf (.finite .positive mantissa exponent positive) number

/-- Both sides of an equation can be scaled, up or down. -/
theorem same_of_scaled {mantissa number up down scaledUp scaledDown : Nat}
    (same : mantissa * 2 ^ up = number * 2 ^ down) (shifts : scaledUp + down = up + scaledDown) :
    mantissa * 2 ^ scaledUp = number * 2 ^ scaledDown := by
  refine Nat.eq_of_mul_eq_mul_right (Nat.two_pow_pos down) ?_
  calc mantissa * 2 ^ scaledUp * 2 ^ down = mantissa * 2 ^ up * 2 ^ scaledDown := by
        rw [Nat.mul_assoc, ← Nat.pow_add, shifts, Nat.pow_add, Nat.mul_assoc]
    _ = number * 2 ^ scaledDown * 2 ^ down := by rw [same, Nat.mul_right_comm]

theorem number_ne_zero_of_same {mantissa number up down : Nat} (positive : 0 < mantissa)
    (same : mantissa * 2 ^ up = number * 2 ^ down) : number ≠ 0 := by
  rintro rfl
  have scaled := Nat.mul_pos positive (Nat.two_pow_pos up)
  omega

/-- The exponent of a double is told by the length of its number. -/
theorem exponent_eq_of_same {mantissa number up down : Nat} {exponent : Int}
    (lower : 2 ^ 52 ≤ mantissa) (upper : mantissa < 2 ^ 53) (isExponent : exponent = up - down)
    (same : mantissa * 2 ^ up = number * 2 ^ down) : exponent = number.log2 - 52 := by
  have positive : 0 < mantissa := by omega
  have lengths := log2_add_of_same (number_ne_zero_of_same positive same) same
  rw [log2_eq_of_bounds lower upper] at lengths
  omega

/-! ## The number of the nearest double -/

/-- The number that the double nearest to a number stands for. -/
def roundedNat (number : Nat) : Nat :=
  roundedShift (number * 2 ^ 53) (number.log2 + 1) * 2 ^ number.log2 / 2 ^ 52

theorem roundedShift_of_short {number : Nat} (short : number.log2 ≤ 52) :
    roundedShift (number * 2 ^ 53) (number.log2 + 1) = number * 2 ^ (52 - number.log2) := by
  have scaled : number * 2 ^ 53 = number * 2 ^ (52 - number.log2) * 2 ^ (number.log2 + 1) := by
    rw [Nat.mul_assoc, ← Nat.pow_add]
    congr 2
    omega
  have noShift := roundedShift_mul_two_pow (number * 2 ^ (52 - number.log2)) 0 (number.log2 + 1)
  rw [roundedShift_zero, Nat.zero_add] at noShift
  rw [scaled, noShift]

theorem roundedNat_mul (number : Nat) :
    roundedNat number * 2 ^ 52 =
      roundedShift (number * 2 ^ 53) (number.log2 + 1) * 2 ^ number.log2 := by
  refine Nat.div_mul_cancel ?_
  rcases Nat.le_total number.log2 52 with short | long
  · rw [roundedShift_of_short short, Nat.mul_assoc, ← Nat.pow_add, Nat.sub_add_cancel short]
    exact Nat.dvd_mul_left _ _
  · exact Nat.dvd_mul_left_of_dvd (Nat.pow_dvd_pow 2 long) _

theorem roundedNat_of_short {number : Nat} (short : number < 2 ^ 53) :
    roundedNat number = number := by
  have length : number.log2 ≤ 52 := Nat.le_of_lt_succ (log2_lt_of_lt_two_pow (by decide) short)
  refine Nat.eq_of_mul_eq_mul_right (Nat.two_pow_pos 52) ?_
  rw [roundedNat_mul, roundedShift_of_short length, Nat.mul_assoc, ← Nat.pow_add,
    Nat.sub_add_cancel length]

theorem roundedNat_mul_two_pow (number bits : Nat) :
    roundedNat (number * 2 ^ bits) = roundedNat number * 2 ^ bits := by
  by_cases isZero : number = 0
  · rw [isZero, Nat.zero_mul, roundedNat_of_short (by decide), Nat.zero_mul]
  · have scaled : number * 2 ^ bits * 2 ^ 53 = number * 2 ^ 53 * 2 ^ bits := by
      rw [Nat.mul_right_comm]
    refine Nat.eq_of_mul_eq_mul_right (Nat.two_pow_pos 52) ?_
    rw [roundedNat_mul, log2_mul_two_pow isZero, Nat.mul_right_comm (roundedNat number),
      roundedNat_mul, scaled, Nat.add_right_comm, roundedShift_mul_two_pow, Nat.pow_add,
      Nat.mul_assoc]

theorem roundedShift_double {number : Nat} (nonzero : number ≠ 0) :
    2 ^ 52 ≤ roundedShift (number * 2 ^ 53) (number.log2 + 1) ∧
      roundedShift (number * 2 ^ 53) (number.log2 + 1) ≤ 2 ^ 53 := by
  refine roundedShift_normal ?_
  rw [log2_mul_two_pow nonzero]
  omega

/-- Rounding makes no number shorter. -/
theorem log2_le_log2_roundedNat {number : Nat} (nonzero : number ≠ 0) :
    number.log2 ≤ (roundedNat number).log2 := by
  have atLeast : 2 ^ number.log2 ≤ roundedNat number := by
    refine Nat.le_of_mul_le_mul_right ?_ (Nat.two_pow_pos 52)
    rw [roundedNat_mul, Nat.mul_comm]
    exact Nat.mul_le_mul_right _ (roundedShift_double nonzero).1
  have positive := Nat.two_pow_pos number.log2
  exact (Nat.le_log2 (by omega)).mpr atLeast

theorem isDoubleOf_doubleOf (number : Nat) : IsDoubleOf (doubleOf number) (roundedNat number) := by
  by_cases isZero : number = 0
  · subst isZero
    rw [roundedNat_of_short (by decide)]
    exact .zero
  · obtain ⟨lower, upper⟩ := roundedShift_double isZero
    have same := roundedNat_mul number
    unfold doubleOf
    generalize roundedShift (number * 2 ^ 53) (number.log2 + 1) = significand at lower upper same ⊢
    have nonzero : significand ≠ 0 := by omega
    rw [settled, dif_neg nonzero]
    split
    · next noCarry => exact .finite _ lower noCarry rfl same.symm
    · next carry =>
        have isCarry : significand = 2 ^ 53 := by omega
        rw [isCarry] at same
        have carried : 2 ^ 52 * 2 ^ (number.log2 + 1) = roundedNat number * 2 ^ 52 := by
          rw [same, ← Nat.pow_add, ← Nat.pow_add]
          congr 1
          omega
        refine .finite _ (Nat.le_refl _) (by decide) ?_ carried
        push_cast
        omega

/-! ## Sums and products -/

theorem normalize_natCast {mantissa : Nat} (positive : 0 < mantissa) (exponent : Int) :
    UnpackedFloat.normalize .binary64 mantissa exponent .positive =
      UnpackedFloat.round .binary64 .positive mantissa exponent := by
  rw [UnpackedFloat.normalize, Int.compare_eq_gt.mpr (Int.natCast_pos.mpr positive)]
  rfl

namespace IsDoubleOf

variable {left right : UnpackedFloat} {first second : Nat}

theorem eq_doubleOf (isDouble : IsDoubleOf left first) : left = doubleOf first := by
  cases isDouble with
  | zero => rfl
  | @finite mantissa number up down exponent positive lower upper isExponent same =>
      have nonzero := number_ne_zero_of_same positive same
      have length := log2_eq_of_bounds lower upper
      have large := exponent_eq_of_same lower upper isExponent same
      rw [← roundWithAccuracy_eq_doubleOf nonzero same isExponent (Nat.le_of_eq length.symm)
        (by omega), roundWithAccuracy_long .positive (Nat.le_of_eq length.symm) (by omega), length,
        roundedShift_zero, settled, dif_neg (Nat.ne_of_gt positive), if_pos upper]
      congr 1
      exact (Int.add_zero exponent).symm

theorem mul (isFirst : IsDoubleOf left first) (isSecond : IsDoubleOf right second) :
    UnpackedFloat.mul .binary64 left right = doubleOf (first * second) := by
  cases isFirst with
  | zero =>
      rw [Nat.zero_mul]
      cases isSecond <;> rfl
  | @finite mantissa _ up down exponent positive lower upper isExponent same =>
      have large := exponent_eq_of_same lower upper isExponent same
      have nonzero := number_ne_zero_of_same positive same
      cases isSecond with
      | zero =>
          rw [Nat.mul_zero]
          rfl
      | @finite factor _ factorUp factorDown factorExponent factorPositive factorLower factorUpper
          isFactorExponent factorSame =>
          have factorLarge :=
            exponent_eq_of_same factorLower factorUpper isFactorExponent factorSame
          have factorNonzero := number_ne_zero_of_same factorPositive factorSame
          have product : mantissa * factor * 2 ^ (up + factorUp) =
              first * second * 2 ^ (down + factorDown) := by
            rw [Nat.pow_add, Nat.mul_mul_mul_comm, same, factorSame, Nat.mul_mul_mul_comm,
              ← Nat.pow_add]
          have long : 52 ≤ (mantissa * factor).log2 := by
            rw [Nat.le_log2 (Nat.mul_ne_zero (by omega) (by omega))]
            exact Nat.le_trans lower (Nat.le_mul_of_pos_right _ factorPositive)
          refine roundWithAccuracy_eq_doubleOf (Nat.mul_ne_zero nonzero factorNonzero) product ?_
            long ?_
          · push_cast
            omega
          · omega

theorem add (isFirst : IsDoubleOf left first) (isSecond : IsDoubleOf right second) :
    UnpackedFloat.add .binary64 left right = doubleOf (first + second) := by
  cases isFirst with
  | zero =>
      rw [Nat.zero_add, ← isSecond.eq_doubleOf]
      cases isSecond <;> rfl
  | @finite mantissa _ up down exponent positive lower upper isExponent same =>
      have large := exponent_eq_of_same lower upper isExponent same
      have nonzero := number_ne_zero_of_same positive same
      cases isSecond with
      | zero => exact (finite positive lower upper isExponent same).eq_doubleOf
      | @finite summand _ summandUp summandDown summandExponent summandPositive summandLower
          summandUpper isSummandExponent summandSame =>
          have summandLarge :=
            exponent_eq_of_same summandLower summandUpper isSummandExponent summandSame
          -- Both mantissas are brought to the smaller exponent.
          obtain ⟨smaller, isSmaller⟩ : ∃ smaller, smaller = min exponent summandExponent :=
            ⟨_, rfl⟩
          have scaled : mantissa * 2 ^ ((exponent - smaller).toNat +
              (smaller + down + summandDown).toNat) = first * 2 ^ (down + summandDown) :=
            same_of_scaled same (by omega)
          have summandScaled : summand * 2 ^ ((summandExponent - smaller).toNat +
              (smaller + down + summandDown).toNat) = second * 2 ^ (down + summandDown) :=
            same_of_scaled summandSame (by omega)
          have sum : (mantissa * 2 ^ (exponent - smaller).toNat +
              summand * 2 ^ (summandExponent - smaller).toNat) *
                2 ^ (smaller + down + summandDown).toNat =
              (first + second) * 2 ^ (down + summandDown) := by
            rw [Nat.add_mul, Nat.mul_assoc, Nat.mul_assoc, ← Nat.pow_add, ← Nat.pow_add, scaled,
              summandScaled, Nat.add_mul]
          have positiveSum : 0 < mantissa * 2 ^ (exponent - smaller).toNat +
              summand * 2 ^ (summandExponent - smaller).toNat :=
            Nat.add_pos_left (Nat.mul_pos positive (Nat.two_pow_pos _)) _
          have rounded : UnpackedFloat.round .binary64 .positive (mantissa * 2 ^ (exponent - smaller).toNat +
              summand * 2 ^ (summandExponent - smaller).toNat) smaller =
                doubleOf (first + second) :=
            round_eq_doubleOf (by omega) sum (by omega) (by omega)
          rw [← rounded, ← normalize_natCast positiveSum, isSmaller, Int.natCast_add,
            ← Nat.shiftLeft_eq, ← Nat.shiftLeft_eq]
          rfl

end IsDoubleOf

end SyntaxQuery
