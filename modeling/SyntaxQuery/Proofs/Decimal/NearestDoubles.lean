import SyntaxQuery.Proofs.Decimal.Naturals

/-!
Contract: the doubles of natural numbers as floating-point values.

Packing keeps the double of a number below `2 ^ 1024` (`IsDoubleOf.unpack_pack_of_small`) and makes
infinity of any other (`IsDoubleOf.pack_of_large`). The double of an integer is the nearest one
(`floatOfInt_natCast`), and products by powers of two and sums of nearest doubles are nearest ones
again.

Does not own: numerals.
-/

namespace SyntaxQuery

open Float.Model
open Float.Model.UnpackedFloat

/-! ## Packing -/

theorem toNat_one_append {mantissa : Nat} (lower : 2 ^ 52 ≤ mantissa) (upper : mantissa < 2 ^ 53) :
    (1#1 ++ BitVec.ofNat 52 mantissa).toNat = mantissa := by
  rw [BitVec.toNat_append, BitVec.toNat_ofNat, BitVec.toNat_ofNat, Nat.shiftLeft_eq,
    Nat.mul_comm, ← Nat.two_pow_add_eq_or_of_lt (Nat.mod_lt _ (Nat.two_pow_pos 52))]
  omega

theorem pack_normal {mantissa biased : Nat} {exponent : Int} (positive : 0 < mantissa)
    (lower : 2 ^ 52 ≤ mantissa) (upper : mantissa < 2 ^ 53) (isBiased : exponent + 1075 = biased)
    (high : biased < 2047) :
    UnpackedFloat.pack .binary64 (.finite .positive mantissa exponent positive) =
      packComponents .binary64 .positive (BitVec.ofNat 11 biased) (BitVec.ofNat 52 mantissa) := by
  have bits : (exponent + Format.binary64.exponentBias +
      Format.binary64.mantissaBitsWithoutImplicit).toNat = biased := by
    show (exponent + 1023 + 52).toNat = biased
    omega
  have inRange : ¬ 2 ^ Format.binary64.exponentBits ≤ biased + 1 := by
    show ¬ 2048 ≤ biased + 1
    omega
  have isNormal : mantissa.log2 + 1 = Format.binary64.mantissaBits := by
    rw [log2_eq_of_bounds lower upper]
    rfl
  rw [UnpackedFloat.pack]
  dsimp only
  rw [bits, if_neg inRange, if_pos isNormal]

/-- What is unpacked from its parts, if the exponent is that of a normal double. -/
theorem unpack_of_parts {packed : BitVec Format.binary64.numBits} {mantissa biased : Nat}
    {exponent : Int} (positive : 0 < mantissa)
    (isSign : Sign.ofBitVec (unpackSign packed) = .positive)
    (isExponent : (unpackExponent packed).toNat = biased)
    (isMantissa : (1#1 ++ unpackMantissa packed).toNat = mantissa)
    (isBiased : exponent + 1075 = biased) (low : 0 < biased) (high : biased < 2047) :
    UnpackedFloat.unpack .binary64 packed = .finite .positive mantissa exponent positive := by
  have notLargest : unpackExponent packed ≠ -1#11 := by
    intro isLargest
    rw [isLargest] at isExponent
    change 2047 = biased at isExponent
    omega
  have notZero : unpackExponent packed ≠ 0#11 := by
    intro isZero
    rw [isZero] at isExponent
    change 0 = biased at isExponent
    omega
  rw [UnpackedFloat.unpack]
  dsimp only
  rw [if_neg notLargest, if_neg notZero, UnpackedFloat.finite.injEq]
  refine ⟨isSign, isMantissa, ?_⟩
  show ((unpackExponent packed).toNat : Int) - (1023 + 52) = exponent
  omega

/-- Packing keeps fifty-three bits with an exponent in the range of normal doubles. -/
theorem unpack_pack_finite {mantissa : Nat} {exponent : Int} (positive : 0 < mantissa)
    (lower : 2 ^ 52 ≤ mantissa) (upper : mantissa < 2 ^ 53) (low : -1074 ≤ exponent)
    (high : exponent ≤ 971) :
    UnpackedFloat.unpack .binary64
        (UnpackedFloat.pack .binary64 (.finite .positive mantissa exponent positive)) =
      .finite .positive mantissa exponent positive := by
  have nonnegative : 0 ≤ exponent + 1075 := by omega
  obtain ⟨biased, isBiased⟩ := Int.eq_ofNat_of_zero_le nonnegative
  have inRange : biased < 2047 := by omega
  have exponentBits : (BitVec.ofNat 11 biased).toNat = biased := by
    rw [BitVec.toNat_ofNat]
    exact Nat.mod_eq_of_lt (by omega)
  rw [pack_normal positive lower upper isBiased inRange]
  refine unpack_of_parts positive ?_ ?_ ?_ isBiased (by omega) inRange
  · rw [unpackSign_packComponents, Sign.ofBitVec_toBitVec]
  · rw [unpackExponent_packComponents]
    exact exponentBits
  · rw [unpackMantissa_packComponents]
    exact toNat_one_append lower upper

/-- Packing makes infinity of an exponent above the range. -/
theorem pack_of_large {mantissa : Nat} {exponent : Int} (positive : 0 < mantissa)
    (high : 971 < exponent) :
    UnpackedFloat.pack .binary64 (.finite .positive mantissa exponent positive) =
      UnpackedFloat.pack .binary64 (.infinity .positive) := by
  have outOfRange : 2 ^ Format.binary64.exponentBits ≤ (exponent + Format.binary64.exponentBias +
      Format.binary64.mantissaBitsWithoutImplicit).toNat + 1 := by
    show 2048 ≤ (exponent + 1023 + 52).toNat + 1
    omega
  exact if_pos outOfRange

namespace IsDoubleOf

variable {unpacked : UnpackedFloat} {number : Nat}

theorem pack_of_large (isDouble : IsDoubleOf unpacked number) (large : 1024 ≤ number.log2) :
    UnpackedFloat.pack .binary64 unpacked = UnpackedFloat.pack .binary64 (.infinity .positive) := by
  cases isDouble with
  | zero =>
      rw [Nat.log2_zero] at large
      omega
  | finite positive lower upper isExponent same =>
      have isLarge := exponent_eq_of_same lower upper isExponent same
      exact SyntaxQuery.pack_of_large positive (by omega)

theorem unpack_pack_of_small (isDouble : IsDoubleOf unpacked number)
    (small : number.log2 < 1024) :
    UnpackedFloat.unpack .binary64 (UnpackedFloat.pack .binary64 unpacked) = unpacked := by
  cases isDouble with
  | zero => rfl
  | finite positive lower upper isExponent same =>
      have isSmall := exponent_eq_of_same lower upper isExponent same
      exact unpack_pack_finite positive lower upper (by omega) (by omega)

end IsDoubleOf

/-! ## Nearest doubles -/

/-- The double nearest to a natural number. -/
def nearest (number : Nat) : Float :=
  .ofModel (.pack (doubleOf number))

theorem unpack_nearest {number : Nat} (small : (roundedNat number).log2 < 1024) :
    (nearest number).toModel.unpack = doubleOf number :=
  (isDoubleOf_doubleOf number).unpack_pack_of_small small

theorem nearest_of_large {number : Nat} (large : 1024 ≤ (roundedNat number).log2) :
    nearest number = Decimal.infinity := by
  have isInfinity : Float.Model.pack (doubleOf number) = .pack (.infinity .positive) := by
    simp only [Float.Model.pack, (isDoubleOf_doubleOf number).pack_of_large large]
  rw [nearest, isInfinity]
  rfl

theorem nearest_roundedNat (number : Nat) : nearest (roundedNat number) = nearest number := by
  rw [nearest, ← (isDoubleOf_doubleOf number).eq_doubleOf, ← nearest]

theorem nearest_mul {first second : Nat} (small : (roundedNat first).log2 < 1024)
    (factorSmall : (roundedNat second).log2 < 1024) :
    nearest first * nearest second = nearest (roundedNat first * roundedNat second) := by
  show Float.ofModel (.pack (UnpackedFloat.mul .binary64 (nearest first).toModel.unpack
    (nearest second).toModel.unpack)) = _
  rw [unpack_nearest small, unpack_nearest factorSmall,
    (isDoubleOf_doubleOf first).mul (isDoubleOf_doubleOf second), nearest]

theorem nearest_add {first second : Nat} (small : (roundedNat first).log2 < 1024)
    (summandSmall : (roundedNat second).log2 < 1024) :
    nearest first + nearest second = nearest (roundedNat first + roundedNat second) := by
  show Float.ofModel (.pack (UnpackedFloat.add .binary64 (nearest first).toModel.unpack
    (nearest second).toModel.unpack)) = _
  rw [unpack_nearest small, unpack_nearest summandSmall,
    (isDoubleOf_doubleOf first).add (isDoubleOf_doubleOf second), nearest]

theorem log2_roundedNat_of_short {number : Nat} (short : number < 2 ^ 53) :
    (roundedNat number).log2 < 1024 := by
  rw [roundedNat_of_short short]
  exact Nat.lt_trans (log2_lt_of_lt_two_pow (by decide) short) (by decide)

theorem infinity_mul_nearest {number : Nat} (nonzero : number ≠ 0) (short : number < 2 ^ 53) :
    Decimal.infinity * nearest number = Decimal.infinity := by
  have isDouble := isDoubleOf_doubleOf number
  rw [roundedNat_of_short short] at isDouble
  show Float.ofModel (.pack (UnpackedFloat.mul .binary64 (.infinity .positive)
    (nearest number).toModel.unpack)) = _
  rw [unpack_nearest (log2_roundedNat_of_short short)]
  generalize doubleOf number = unpacked at isDouble ⊢
  cases isDouble with
  | zero => exact absurd rfl nonzero
  | finite => rfl

theorem infinity_add_nearest {number : Nat} (short : number < 2 ^ 53) :
    Decimal.infinity + nearest number = Decimal.infinity := by
  have isDouble := isDoubleOf_doubleOf number
  rw [roundedNat_of_short short] at isDouble
  show Float.ofModel (.pack (UnpackedFloat.add .binary64 (.infinity .positive)
    (nearest number).toModel.unpack)) = _
  rw [unpack_nearest (log2_roundedNat_of_short short)]
  generalize doubleOf number = unpacked at isDouble ⊢
  cases isDouble <;> rfl

/-- A product by a power of two is rounded as its factor. -/
theorem nearest_mul_two_pow (number : Nat) {bits : Nat} (few : bits ≤ 52) :
    nearest number * nearest (2 ^ bits) = nearest (number * 2 ^ bits) := by
  have short : 2 ^ bits < 2 ^ 53 := Nat.pow_lt_pow_right (by decide) (by omega)
  have positive := Nat.two_pow_pos bits
  rcases Nat.lt_or_ge (roundedNat number).log2 1024 with small | large
  · rw [nearest_mul small (log2_roundedNat_of_short short), roundedNat_of_short short,
      ← roundedNat_mul_two_pow, nearest_roundedNat]
  · have nonzero : roundedNat number ≠ 0 := by
      intro isZero
      rw [isZero, Nat.log2_zero] at large
      omega
    have productLarge : 1024 ≤ (roundedNat (number * 2 ^ bits)).log2 := by
      rw [roundedNat_mul_two_pow, log2_mul_two_pow nonzero]
      omega
    rw [nearest_of_large large, nearest_of_large productLarge,
      infinity_mul_nearest (Nat.ne_of_gt positive) short]

/-- The bits of a number behind fifty-three others do not matter if they are less than a half. -/
theorem doubleOf_add_of_small_rest {significand rest shift : Nat} (lower : 2 ^ 52 ≤ significand)
    (upper : significand < 2 ^ 53) (small : 2 * rest < 2 ^ shift) :
    doubleOf (significand * 2 ^ shift + rest) = settled .positive significand shift := by
  have length : (significand * 2 ^ shift + rest).log2 = 52 + shift := by
    rw [log2_mul_two_pow_add (by omega) (by omega), log2_eq_of_bounds lower upper]
  rw [doubleOf_of_long length, roundedShift_of_small_rest small]

/-- A summand of less than half the last bit is lost. -/
theorem doubleOf_add_of_negligible {unpacked : UnpackedFloat} {number summand bits : Nat}
    (isDouble : IsDoubleOf unpacked number) (long : 53 + bits ≤ number.log2)
    (small : summand < 2 ^ bits) : doubleOf (number + summand) = unpacked := by
  cases isDouble with
  | zero =>
      rw [Nat.log2_zero] at long
      omega
  | @finite mantissa _ up down exponent positive lower upper isExponent same =>
      have large := exponent_eq_of_same lower upper isExponent same
      have scaled : mantissa * 2 ^ (number.log2 - 52) = number * 2 ^ 0 :=
        same_of_scaled same (by omega)
      have negligible : 2 * summand < 2 ^ (number.log2 - 52) := by
        calc 2 * summand < 2 ^ (bits + 1) := by
              rw [Nat.pow_succ]
              omega
          _ ≤ 2 ^ (number.log2 - 52) := Nat.pow_le_pow_right (by decide) (by omega)
      have isNumber : number = mantissa * 2 ^ (number.log2 - 52) := by
        rw [scaled, Nat.pow_zero, Nat.mul_one]
      have sameExponent : ((number.log2 - 52 : Nat) : Int) = exponent := by omega
      have rounded := doubleOf_add_of_small_rest lower upper negligible
      rw [← isNumber, sameExponent, settled, dif_neg (Nat.ne_of_gt positive), if_pos upper]
        at rounded
      exact rounded

theorem nearest_add_of_negligible {number summand bits : Nat} (long : 53 + bits ≤ number.log2)
    (small : summand < 2 ^ bits) (few : bits ≤ 52) :
    nearest number + nearest summand = nearest number := by
  have short : summand < 2 ^ 53 :=
    Nat.lt_trans small (Nat.pow_lt_pow_right (by decide) (by omega))
  rcases Nat.lt_or_ge (roundedNat number).log2 1024 with notLarge | large
  · have nonzero : number ≠ 0 := by
      rintro rfl
      rw [Nat.log2_zero] at long
      omega
    have longer := log2_le_log2_roundedNat nonzero
    have isDouble := isDoubleOf_doubleOf number
    rw [nearest_add notLarge (log2_roundedNat_of_short short), roundedNat_of_short short, nearest,
      nearest, doubleOf_add_of_negligible isDouble (Nat.le_trans long longer) small]
  · rw [nearest_of_large large, infinity_add_nearest short]

/-! ## Decimals without an exponent -/

theorem ofNat_eq_doubleOf (number : Nat) :
    UnpackedFloat.ofNat .binary64 number = doubleOf number := by
  rcases Nat.eq_zero_or_pos number with rfl | positive
  · rfl
  · have same : number * 2 ^ 0 = number * 2 ^ 0 := rfl
    rw [UnpackedFloat.ofNat, UnpackedFloat.ofInt, normalize_natCast positive]
    exact round_eq_doubleOf (Nat.ne_of_gt positive) same rfl (by decide)

theorem ofScientific_eq_nearest (number : Nat) :
    Float.ofScientific number false 0 = nearest number := by
  unfold Float.ofScientific
  split
  · next fast =>
      -- The fast path converts the mantissa and multiplies it by the power of ten, here one.
      have word : number.toUInt64.toNat = number := by
        rw [Nat.toUInt64_eq, UInt64.toNat_ofNat']
        omega
      have one : Float.ofBits 0x3FF0000000000000 = nearest 1 := rfl
      have converted : number.toUInt64.toFloat = nearest number := by
        show Float.ofModel (.pack (UnpackedFloat.ofNat .binary64 number.toUInt64.toNat)) = _
        rw [word, ofNat_eq_doubleOf, nearest]
      show number.toUInt64.toFloat * Float.ofBits 0x3FF0000000000000 = nearest number
      rw [converted, one, nearest_mul (log2_roundedNat_of_short fast.1)
        (log2_roundedNat_of_short (by decide)), roundedNat_of_short fast.1,
        roundedNat_of_short (by decide), Nat.mul_one]
  · next slow =>
      have nonzero : number ≠ 0 := by omega
      have same : number <<< 53 * 10 ^ 0 * 2 ^ 0 = number * 2 ^ 53 := by
        rw [Nat.shiftLeft_eq, Nat.pow_zero, Nat.pow_zero, Nat.mul_one, Nat.mul_one]
      have long : 52 ≤ (number <<< 53 * 10 ^ 0).log2 := by
        rw [Nat.pow_zero, Nat.mul_one, Nat.shiftLeft_eq, log2_mul_two_pow nonzero]
        omega
      show Float.ofModel (.pack (UnpackedFloat.ofScientific .binary64 number 0)) = nearest number
      rw [ofScientific_eq_round nonzero,
        roundWithAccuracy_eq_doubleOf nonzero same (by decide) long (by decide), nearest]

/-- The double of a natural number is the nearest one, infinity from `2 ^ 1024` on. -/
theorem floatOfInt_natCast (number : Nat) : floatOfInt number = nearest number := by
  have notNegative : decide ((number : Int) < 0) = false :=
    decide_eq_false (Int.not_lt.mpr (Int.natCast_nonneg number))
  rw [floatOfInt, Decimal.toFloat, notNegative, Int.natAbs_natCast, if_neg Bool.false_ne_true]
  rw [Decimal.magnitude]
  dsimp only
  rw [Int.zero_add]
  split
  · next isZero =>
      subst isZero
      rfl
  · next nonzero =>
      split
      · next long =>
          have large : 10 ^ 309 ≤ number := by
            refine Nat.le_of_not_lt fun small => ?_
            have short := Nat.repr_length number 309 (by decide) small
            omega
          have length : 1024 ≤ number.log2 :=
            Nat.le_trans (by decide +kernel : 1024 ≤ (10 ^ 309).log2)
              (log2_le_log2 (by decide +kernel) large)
          exact (nearest_of_large (Nat.le_trans length (log2_le_log2_roundedNat nonzero))).symm
      · rw [if_neg (by omega)]
        exact ofScientific_eq_nearest number

end SyntaxQuery
