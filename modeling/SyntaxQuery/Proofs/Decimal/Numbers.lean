import SyntaxQuery.Proofs.Decimal.Finiteness

/-!
Contract: decimals stand for numbers.

The double nearest to a decimal is never "not a number": rounding gives a number, products and
quotients by powers of ten are rounded, and packing keeps what is a number. So a decimal whose double
is not infinite has a finite one.

Does not own: which double is nearest.
-/

namespace SyntaxQuery

open Float.Model
open Float.Model.UnpackedFloat

/-- The unpacked double is zero, finite or infinite. -/
def IsNumber : UnpackedFloat → Prop
  | .notANumber => False
  | _ => True

theorem IsNumber.isFinite {number : UnpackedFloat} (isNumber : IsNumber number)
    (notInfinite : number.isInf = false) : number.isFinite = true := by
  cases number with
  | infinity sign => cases notInfinite
  | notANumber => exact isNumber.elim
  | zero sign => rfl
  | finite sign mantissa exponent positive => rfl

theorem IsNumber.neg {number : UnpackedFloat} (isNumber : IsNumber number) :
    IsNumber number.neg := by
  cases number with
  | notANumber => exact isNumber.elim
  | _ => trivial

theorem isNumber_roundWithAccuracy (sign : Sign) (mantissa : Nat) (exponent : Int)
    (accuracy : Accuracy) :
    IsNumber (roundWithAccuracy .binary64 sign mantissa exponent accuracy) := by
  unfold roundWithAccuracy
  dsimp only
  split <;> trivial

/-- The largest exponent belongs to infinity if the mantissa is zero. -/
theorem isNumber_unpack {packed : BitVec Format.binary64.numBits}
    (infinite : unpackExponent packed = -1#11 → unpackMantissa packed = 0#52) :
    IsNumber (UnpackedFloat.unpack .binary64 packed) := by
  unfold UnpackedFloat.unpack
  dsimp only
  split
  · next isLargest =>
      rw [if_pos (infinite isLargest)]
      trivial
  · split
    · split <;> trivial
    · trivial

theorem IsNumber.unpack_pack {number : UnpackedFloat} (isNumber : IsNumber number) :
    IsNumber (UnpackedFloat.unpack .binary64 (UnpackedFloat.pack .binary64 number)) := by
  apply isNumber_unpack
  intro isLargest
  cases number with
  | notANumber => exact isNumber.elim
  | infinity sign => exact unpackMantissa_packComponents
  | zero sign =>
      rw [UnpackedFloat.pack, packedZero, unpackExponent_packComponents] at isLargest
      cases isLargest
  | finite sign mantissa exponent positive =>
      rw [UnpackedFloat.pack] at isLargest ⊢
      dsimp only at isLargest ⊢
      split at isLargest
      · next tooLarge =>
          rw [if_pos tooLarge]
          exact unpackMantissa_packComponents
      · next notTooLarge =>
          split at isLargest
          · rw [unpackExponent_packComponents] at isLargest
            have same := congrArg BitVec.toNat isLargest
            rw [BitVec.toNat_ofNat] at same
            change _ % 2 ^ 11 = 2047 at same
            change ¬ 2 ^ 11 ≤ _ + 1 at notTooLarge
            omega
          · rw [unpackExponent_packComponents] at isLargest
            cases isLargest

/-! ## Products and quotients by powers of ten -/

/-- The unpacked double is finite and not zero. -/
def isFiniteNonzero : UnpackedFloat → Bool
  | .finite .. => true
  | _ => false

theorem isNumber_mul {left right : UnpackedFloat} (isFinite : left.isFinite = true)
    (factor : isFiniteNonzero right = true) : IsNumber (UnpackedFloat.mul .binary64 left right) := by
  cases right with
  | finite sign mantissa exponent positive =>
      cases left with
      | zero leftSign => trivial
      | finite leftSign leftMantissa leftExponent leftPositive =>
          exact isNumber_roundWithAccuracy _ _ _ _
      | _ => cases isFinite
  | _ => cases factor

theorem isNumber_div {left right : UnpackedFloat} (isFinite : left.isFinite = true)
    (divisor : isFiniteNonzero right = true) : IsNumber (UnpackedFloat.div .binary64 left right) := by
  cases right with
  | finite sign mantissa exponent positive =>
      cases left with
      | zero leftSign => trivial
      | finite leftSign leftMantissa leftExponent leftPositive =>
          exact isNumber_roundWithAccuracy _ _ _ _
      | _ => cases isFinite
  | _ => cases divisor

theorem isNumber_ofScientific (mantissa : Nat) (exponent : Int) :
    IsNumber (UnpackedFloat.ofScientific .binary64 mantissa exponent) := by
  unfold UnpackedFloat.ofScientific
  split
  · trivial
  · split
    · trivial
    · split
      · trivial
      · split
        · exact isNumber_mul rfl rfl
        · exact isNumber_div rfl rfl

theorem isFiniteNonzero_powersOfTen (exponent : Fin Float.exactlyRepresentablePowersOfTen.size) :
    isFiniteNonzero Float.exactlyRepresentablePowersOfTen[exponent].toModel.unpack = true := by
  revert exponent
  decide +kernel

/-- The double of a decimal is a number. -/
theorem isNumber_floatOfScientific (mantissa : Nat) (negative : Bool) (exponent : Nat) :
    IsNumber (Float.ofScientific mantissa negative exponent).toModel.unpack := by
  unfold Float.ofScientific
  split
  · next fast =>
      -- The fast path multiplies or divides the mantissa by a power of ten that has a double.
      have same : mantissa.toUInt64.toNat = mantissa := by
        rw [Nat.toUInt64_eq, UInt64.toNat_ofNat']
        omega
      have finite : mantissa.toUInt64.toFloat.toModel.unpack.isFinite = true := by
        show (UnpackedFloat.unpack .binary64 (UnpackedFloat.pack .binary64
          (UnpackedFloat.ofNat .binary64 mantissa.toUInt64.toNat))).isFinite = true
        rw [same]
        exact ((isBounded_ofNat fast.1).unpack_pack (by decide) (by decide)).isFinite
      have within : exponent < Float.exactlyRepresentablePowersOfTen.size :=
        Nat.lt_succ_of_le fast.2
      have power := isFiniteNonzero_powersOfTen ⟨exponent, within⟩
      dsimp only
      split
      · exact (isNumber_div finite power).unpack_pack
      · exact (isNumber_mul finite power).unpack_pack
  · exact (isNumber_ofScientific _ _).unpack_pack

namespace Decimal

theorem isNumber_toFloat (decimal : Decimal) : IsNumber decimal.toFloat.toModel.unpack := by
  have absolute : IsNumber (if decimal.coefficient = 0 then (0 : Float)
      else if 309 < decimal.magnitude then infinity
      else if decimal.magnitude < -323 then 0
      else Float.ofScientific decimal.coefficient (decimal.exponent < 0)
        decimal.exponent.natAbs).toModel.unpack := by
    split
    · trivial
    · split
      · trivial
      · split
        · trivial
        · exact isNumber_floatOfScientific _ _ _
  unfold toFloat
  dsimp only
  split
  · exact absolute.neg.unpack_pack
  · exact absolute

/-- A decimal whose double is not infinite has a finite one. -/
theorem isFinite_toFloat {decimal : Decimal} (notInfinite : decimal.toFloat.isInf = false) :
    decimal.toFloat.isFinite = true :=
  decimal.isNumber_toFloat.isFinite notInfinite

end Decimal

end SyntaxQuery
