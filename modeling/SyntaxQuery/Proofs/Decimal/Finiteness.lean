import Mathlib
import SyntaxQuery.Json.Basic

/-!
Contract: which doubles are finite, and that finite ones equal themselves.

The doubles of integers in the range of JSON are finite. Rounding a mantissa of limited length
raises the exponent by a limited amount, so that the exponent stays far below where packing
overflows.

Does not own: which double is nearest to a number.
-/

namespace SyntaxQuery

open Float.Model
open Float.Model.UnpackedFloat

/-! ## Lengths of mantissas and sizes of exponents -/

/-- The number is zero or finite, with a mantissa of so many bits and an exponent up to the limit.
-/
inductive IsBounded (bits : Nat) (limit : Int) : UnpackedFloat → Prop where
  | zero (sign : Sign) : IsBounded bits limit (.zero sign)
  | finite (sign : Sign) {mantissa : Nat} {exponent : Int} (positive : 0 < mantissa)
      (short : mantissa < 2 ^ bits) (low : exponent ≤ limit) :
      IsBounded bits limit (.finite sign mantissa exponent positive)

theorem IsBounded.isFinite {bits : Nat} {limit : Int} {number : UnpackedFloat}
    (bounded : IsBounded bits limit number) : number.isFinite = true := by
  cases bounded <;> rfl

theorem IsBounded.neg {bits : Nat} {limit : Int} {number : UnpackedFloat}
    (bounded : IsBounded bits limit number) : IsBounded bits limit number.neg := by
  cases bounded with
  | zero sign => exact .zero _
  | finite sign positive short low => exact .finite _ positive short low

theorem IsBounded.mono {bits more : Nat} {limit higher : Int} {number : UnpackedFloat}
    (bounded : IsBounded bits limit number) (longer : bits ≤ more) (above : limit ≤ higher) :
    IsBounded more higher number := by
  cases bounded with
  | zero sign => exact .zero sign
  | finite sign positive short low =>
      exact .finite sign positive
        (Nat.lt_of_lt_of_le short (Nat.pow_le_pow_right (by decide) longer))
        (Int.le_trans low above)

theorem log2_lt_of_lt_two_pow {number bits : Nat} (positive : 0 < bits)
    (small : number < 2 ^ bits) : number.log2 < bits := by
  by_cases isZero : number = 0
  · rw [isZero, Nat.log2_zero]
    exact positive
  · exact (Nat.log2_lt isZero).2 small

theorem mantissa_shiftRight_le (extended : ExtendedMantissa) (amount : Nat) :
    (extended >>> amount).mantissa ≤ extended.mantissa := by
  show (amount.repeat ExtendedMantissa.shiftRightOne extended).mantissa ≤ extended.mantissa
  induction amount with
  | zero => exact Nat.le_refl _
  | succ amount inductionHypothesis =>
      exact Nat.le_trans (Nat.div_le_self _ 2) inductionHypothesis

theorem roundedMantissa_le (extended : ExtendedMantissa) :
    extended.roundedMantissa ≤ extended.mantissa + 1 := by
  obtain ⟨mantissa, roundBit, stickyBit⟩ := extended
  cases roundBit <;> cases stickyBit <;>
    simp only [ExtendedMantissa.roundedMantissa, ExtendedMantissa.accuracy,
      Accuracy.roundToNearestEven] <;>
    omega

/-- Shifting to the exponent of the format shortens the mantissa and raises the exponent by no more
than the excess of the mantissa. -/
theorem shiftToTargetExponent_le {mantissa bits : Nat} {exponent limit : Int} (accuracy : Accuracy)
    (small : mantissa < 2 ^ bits) (fifty : 53 ≤ bits) (low : exponent ≤ limit) (high : 0 ≤ limit) :
    (shiftToTargetExponent .binary64 mantissa exponent accuracy).1.mantissa ≤ mantissa ∧
      (shiftToTargetExponent .binary64 mantissa exponent accuracy).2 ≤ limit + bits - 53 := by
  have length := log2_lt_of_lt_two_pow (by omega) small
  unfold shiftToTargetExponent shiftToExponent
  constructor
  · refine Nat.le_trans (mantissa_shiftRight_le _ _) ?_
    cases accuracy with
    | exact => exact Nat.le_refl _
    | inexact order => cases order <;> exact Nat.le_refl _
  · simp only [Format.targetExponent, totalExponent, Format.mantissaBits, Format.minExponent]
    omega

/-- Rounding lengthens the mantissa by one bit at most, and raises the exponent by no more than
twice the excess of the mantissa. -/
theorem isBounded_roundWithAccuracy (bits : Nat) (limit : Int) (sign : Sign) {mantissa : Nat}
    {exponent : Int} (accuracy : Accuracy) (small : mantissa < 2 ^ bits) (fifty : 53 ≤ bits)
    (low : exponent ≤ limit) (high : 0 ≤ limit) :
    IsBounded (bits + 1) (limit + 2 * bits - 105)
      (roundWithAccuracy .binary64 sign mantissa exponent accuracy) := by
  have first := shiftToTargetExponent_le accuracy small fifty low high
  unfold roundWithAccuracy
  rcases shifted : shiftToTargetExponent .binary64 mantissa exponent accuracy with
    ⟨extended, raised⟩
  rw [shifted] at first
  have shorter : extended.mantissa ≤ mantissa := first.1
  have rounded := roundedMantissa_le extended
  have longer : extended.roundedMantissa < 2 ^ (bits + 1) := by
    have positive := Nat.two_pow_pos bits
    rw [Nat.pow_succ]
    omega
  -- Rounding up may carry into one more bit, which a second shift takes off again.
  have second := shiftToTargetExponent_le .exact longer (by omega) first.2 (by omega)
  dsimp only
  rcases again : shiftToTargetExponent .binary64 extended.roundedMantissa raised .exact with
    ⟨final, exponent⟩
  rw [again] at second
  dsimp only
  split
  · exact .zero sign
  · refine .finite sign _ (Nat.lt_of_le_of_lt second.1 longer) ?_
    have raisedTwice := second.2
    push_cast at raisedTwice ⊢
    omega

/-! ## Packing -/

theorem isBounded_unpack (packed : BitVec Format.binary64.numBits) {limit : Int}
    (low : ((unpackExponent packed).toNat : Int) ≤ limit + 1075) (high : 0 ≤ limit)
    (finite : limit ≤ 971) : IsBounded 53 limit (UnpackedFloat.unpack .binary64 packed) := by
  unfold UnpackedFloat.unpack
  have bias : (Format.binary64.exponentBias : Int) = 1023 := rfl
  dsimp only
  split
  · next isLargest =>
      rw [isLargest] at low
      change ((2047 : Nat) : Int) ≤ _ at low
      omega
  · split
    · next isZero =>
        have zero : (unpackExponent packed).toNat = 0 := congrArg BitVec.toNat isZero
        split
        · exact .zero _
        · refine .finite _ _ (Nat.lt_trans (unpackMantissa packed).isLt (by decide)) ?_
          rw [bias, zero]
          omega
    · refine .finite _ _ (1#1 ++ unpackMantissa packed).isLt ?_
      rw [bias]
      omega

theorem isBounded_of_isFinite (packed : BitVec Format.binary64.numBits)
    (isFinite : (UnpackedFloat.unpack .binary64 packed).isFinite = true) :
    IsBounded 53 971 (UnpackedFloat.unpack .binary64 packed) := by
  have notLargest : unpackExponent packed ≠ -1#11 := by
    intro isLargest
    unfold UnpackedFloat.unpack at isFinite
    dsimp only at isFinite
    rw [if_pos isLargest] at isFinite
    split at isFinite <;> cases isFinite
  have below : (unpackExponent packed).toNat ≠ 2047 := fun same =>
    notLargest (BitVec.eq_of_toNat_eq same)
  have within : (unpackExponent packed).toNat < 2 ^ 11 := (unpackExponent packed).isLt
  exact isBounded_unpack packed (by omega) (by decide) (by decide)

/-- Packing keeps what is bounded below the largest exponent. -/
theorem IsBounded.unpack_pack {bits : Nat} {limit : Int} {number : UnpackedFloat}
    (bounded : IsBounded bits limit number) (high : 0 ≤ limit) (finite : limit ≤ 971) :
    IsBounded 53 limit
      (UnpackedFloat.unpack .binary64 (UnpackedFloat.pack .binary64 number)) := by
  refine isBounded_unpack _ ?_ high finite
  cases bounded with
  | zero sign =>
      rw [UnpackedFloat.pack, packedZero, unpackExponent_packComponents]
      show ((0 : Nat) : Int) ≤ _
      omega
  | @finite sign mantissa exponent positive short low =>
      have bias : (Format.binary64.exponentBias : Int) = 1023 := rfl
      rw [UnpackedFloat.pack]
      dsimp only
      split
      · next tooLarge =>
          rw [bias] at tooLarge
          omega
      · split
        · rw [unpackExponent_packComponents, BitVec.toNat_ofNat, bias]
          have reduced := Nat.mod_le (exponent + 1023 + 52).toNat (2 ^ 11)
          omega
        · rw [unpackExponent_packComponents]
          show ((0 : Nat) : Int) ≤ _
          omega

/-! ## Doubles of integers -/

theorem isBounded_ofNat {number : Nat} (small : number < 2 ^ 53) :
    IsBounded 106 105 (UnpackedFloat.ofNat .binary64 number) := by
  unfold UnpackedFloat.ofNat UnpackedFloat.ofInt UnpackedFloat.normalize
  split
  · next isLess =>
      have negative := Int.compare_eq_lt.mp isLess
      omega
  · exact .zero _
  · have length := log2_lt_of_lt_two_pow (by decide) small
    unfold UnpackedFloat.round decreaseExponent
    dsimp only
    rw [Int.toNat_natCast]
    simp only [Format.targetExponent, totalExponent, Format.mantissaBits, Format.minExponent]
    have shifted (amount : Nat) (atMost : amount ≤ 52) : number <<< amount < 2 ^ 105 := by
      rw [Nat.shiftLeft_eq]
      calc number * 2 ^ amount < 2 ^ 53 * 2 ^ amount :=
            Nat.mul_lt_mul_of_pos_right small (Nat.two_pow_pos amount)
        _ ≤ 2 ^ 53 * 2 ^ 52 := Nat.mul_le_mul_left _ (Nat.pow_le_pow_right (by decide) atMost)
        _ = 2 ^ 105 := by decide
    refine (isBounded_roundWithAccuracy 105 0 _ _ (shifted _ ?_) (by decide) ?_ (by decide)).mono
      (by decide) (by decide)
    · omega
    · omega

theorem isBounded_mul_one {number : UnpackedFloat} (bounded : IsBounded 53 105 number) :
    IsBounded 106 158
      (UnpackedFloat.mul .binary64 number (.finite .positive (2 ^ 52) (-52) (by decide))) := by
  cases bounded with
  | zero sign => exact .zero _
  | @finite sign mantissa exponent positive short low =>
      have small : mantissa * 2 ^ 52 < 2 ^ 105 := by omega
      exact (isBounded_roundWithAccuracy 105 53 _ _ small (by decide) (by omega) (by decide)).mono
        (by decide) (by decide)

theorem ofScientific_eq_round {number : Nat} (positive : number ≠ 0) :
    UnpackedFloat.ofScientific .binary64 number 0 =
      roundWithAccuracy .binary64 .positive (number <<< 53 * 10 ^ 0) (-53 + 0) .exact := by
  have capacity : (2 : Int) ^ Format.binary64.exponentBits = 2048 := rfl
  rw [UnpackedFloat.ofScientific, dif_neg positive, capacity, if_neg (by omega),
    if_neg (by omega), if_pos (Int.le_refl 0)]
  rfl

theorem isBounded_ofScientific {number : Nat} (small : number ≤ 2 ^ 64) :
    IsBounded 119 131 (UnpackedFloat.ofScientific .binary64 number 0) := by
  by_cases isZero : number = 0
  · rw [isZero]
    exact .zero _
  · have shifted : number <<< 53 * 10 ^ 0 < 2 ^ 118 := by
      rw [Nat.shiftLeft_eq]
      omega
    have low : (-53 + 0 : Int) ≤ 0 := by decide
    have rounded := isBounded_roundWithAccuracy 118 0 .positive .exact shifted (by decide) low
      (Int.le_refl 0)
    rw [ofScientific_eq_round isZero]
    exact rounded.mono (by decide) (by decide)

/-- A natural number that fits into 64 bits, and the next one, has a finite double. -/
theorem isFinite_ofScientific {number : Nat} (small : number ≤ 2 ^ 64) :
    (Float.ofScientific number false 0).isFinite = true := by
  unfold Float.ofScientific
  split
  · next fast =>
      -- The fast path converts the mantissa and multiplies it by the power of ten, here one.
      have same : number.toUInt64.toNat = number := by
        rw [Nat.toUInt64_eq, UInt64.toNat_ofNat']
        omega
      have one : (Float.ofBits 0x3FF0000000000000).toModel.unpack =
          .finite .positive (2 ^ 52) (-52) (by decide) := rfl
      have converted : number.toUInt64.toFloat.toModel.unpack =
          UnpackedFloat.unpack .binary64 (UnpackedFloat.pack .binary64
            (UnpackedFloat.ofNat .binary64 number.toUInt64.toNat)) := rfl
      show (UnpackedFloat.unpack .binary64 (UnpackedFloat.pack .binary64
        (UnpackedFloat.mul .binary64 number.toUInt64.toFloat.toModel.unpack
          (Float.ofBits 0x3FF0000000000000).toModel.unpack))).isFinite = true
      rw [one, converted, same]
      have factor := (isBounded_ofNat fast.1).unpack_pack (by decide) (by decide)
      exact ((isBounded_mul_one factor).unpack_pack (by decide) (by decide)).isFinite
  · exact ((isBounded_ofScientific small).unpack_pack (by decide) (by decide)).isFinite

theorem isFinite_neg {number : Float} (isFinite : number.isFinite = true) :
    (-number).isFinite = true :=
  ((isBounded_of_isFinite _ isFinite).neg.unpack_pack (by decide) (by decide)).isFinite

/-- An integer of at most 64 bits has a finite double. -/
theorem isFinite_floatOfInt {value : Int} (small : value.natAbs ≤ 2 ^ 64) :
    (floatOfInt value).isFinite = true := by
  have short : (Nat.repr value.natAbs).length ≤ 20 :=
    Nat.repr_length _ _ (by decide) (Nat.lt_of_le_of_lt small (by decide))
  have absolute : (if value.natAbs = 0 then (0 : Float)
      else if 309 < (0 : Int) + (Nat.repr value.natAbs).length then Decimal.infinity
      else if (0 : Int) + (Nat.repr value.natAbs).length < -323 then 0
      else Float.ofScientific value.natAbs false 0).isFinite = true := by
    split
    · rfl
    · rw [if_neg (by omega), if_neg (by omega)]
      exact isFinite_ofScientific small
  unfold floatOfInt Decimal.toFloat
  dsimp only
  split
  · exact isFinite_neg absolute
  · exact absolute

theorem beq_self_of_isFinite {number : Float} (isFinite : number.isFinite = true) :
    (number == number) = true := by
  change number.toModel.unpack.isFinite = true at isFinite
  show (number.toModel.unpack.compare number.toModel.unpack == some .eq) = true
  cases unpacked : number.toModel.unpack with
  | infinity sign => rw [unpacked] at isFinite; cases isFinite
  | notANumber => rw [unpacked] at isFinite; cases isFinite
  | zero sign => rfl
  | finite sign mantissa exponent positive =>
      cases sign <;> simp [UnpackedFloat.compare]

end SyntaxQuery
