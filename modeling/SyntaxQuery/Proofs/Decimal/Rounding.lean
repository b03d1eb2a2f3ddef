import SyntaxQuery.Proofs.Decimal.Finiteness

/-!
Contract: the rounding of natural numbers to doubles, in arithmetic of natural numbers.

Dropping bits of a mantissa one by one and rounding at the end is a division by a power of two,
rounded to the nearest number and on a tie to the even one (`roundedShift`). So the rounding of a
mantissa and an exponent depends only on the number that they stand for (`round_eq_doubleOf`).

Does not own: packing.
-/

namespace SyntaxQuery

open Float.Model
open Float.Model.UnpackedFloat

/-! ## Rounded shifts -/

/-- The number divided by a power of two, rounded to the nearest one, on a tie to the even one. -/
def roundedShift (number shift : Nat) : Nat :=
  let quotient := number / 2 ^ shift
  let rest := number % 2 ^ shift
  if 2 * rest < 2 ^ shift then quotient
  else if 2 * rest = 2 ^ shift then quotient + quotient % 2
  else quotient + 1

theorem roundedShift_zero (number : Nat) : roundedShift number 0 = number := by
  simp [roundedShift, Nat.mod_one]

theorem roundedShift_mul_two_pow (number shift more : Nat) :
    roundedShift (number * 2 ^ more) (shift + more) = roundedShift number shift := by
  have positive := Nat.two_pow_pos more
  have sameQuotient : number * 2 ^ more / 2 ^ (shift + more) = number / 2 ^ shift := by
    rw [Nat.pow_add, Nat.mul_div_mul_right _ _ positive]
  have scaledRest : number * 2 ^ more % 2 ^ (shift + more) = number % 2 ^ shift * 2 ^ more := by
    rw [Nat.pow_add, Nat.mul_mod_mul_right]
  unfold roundedShift
  dsimp only
  rw [sameQuotient, scaledRest, Nat.pow_add, ← Nat.mul_assoc]
  simp only [Nat.mul_lt_mul_right positive, Nat.mul_left_inj (Nat.ne_of_gt positive)]

/-- A quotient is kept if the rest is below the half. -/
theorem roundedShift_of_small_rest {quotient rest shift : Nat} (small : 2 * rest < 2 ^ shift) :
    roundedShift (quotient * 2 ^ shift + rest) shift = quotient := by
  have positive := Nat.two_pow_pos shift
  have isQuotient : (quotient * 2 ^ shift + rest) / 2 ^ shift = quotient := by
    rw [Nat.mul_comm, Nat.mul_add_div positive, Nat.div_eq_of_lt (by omega), Nat.add_zero]
  have isRest : (quotient * 2 ^ shift + rest) % 2 ^ shift = rest := by
    rw [Nat.mul_comm, Nat.mul_add_mod, Nat.mod_eq_of_lt (by omega)]
  unfold roundedShift
  dsimp only
  rw [isRest, isQuotient, if_pos small]

theorem roundedShift_bounds (number shift : Nat) :
    number / 2 ^ shift ≤ roundedShift number shift ∧
      roundedShift number shift ≤ number / 2 ^ shift + 1 := by
  unfold roundedShift
  dsimp only
  split
  · omega
  · split <;> omega

/-- Shifting out all but fifty-three bits leaves fifty-three of them, or carries into one more. -/
theorem roundedShift_normal {number shift : Nat} (length : number.log2 = 52 + shift) :
    2 ^ 52 ≤ roundedShift number shift ∧ roundedShift number shift ≤ 2 ^ 53 := by
  have positive := Nat.two_pow_pos shift
  have nonzero : number ≠ 0 := by
    rintro rfl
    rw [Nat.log2_zero] at length
    omega
  have lower : 2 ^ 52 ≤ number / 2 ^ shift := by
    rw [Nat.le_div_iff_mul_le positive, ← Nat.pow_add, ← length]
    exact Nat.log2_self_le nonzero
  have upper : number / 2 ^ shift < 2 ^ 53 := by
    rw [Nat.div_lt_iff_lt_mul positive, ← Nat.pow_add]
    have above : number < 2 ^ (number.log2 + 1) := Nat.lt_log2_self
    rw [length] at above
    rwa [show 53 + shift = 52 + shift + 1 by omega]
  have bounds := roundedShift_bounds number shift
  omega

/-! ## Shifts of mantissas -/

/-- After some shifts of an exact mantissa, the round bit tells whether the rest is at least the
half, and the sticky bit whether it is neither zero nor the half. -/
theorem shiftRight_exact (mantissa shift : Nat) :
    ExtendedMantissa.ofMantissaAndAccuracy mantissa .exact >>> shift =
      ⟨mantissa / 2 ^ shift, decide (2 ^ shift ≤ 2 * (mantissa % 2 ^ shift)),
        decide (2 * (mantissa % 2 ^ shift) % 2 ^ shift ≠ 0)⟩ := by
  induction shift with
  | zero =>
      show ExtendedMantissa.mk mantissa false false = _
      simp [Nat.mod_one]
  | succ shift inductionHypothesis =>
      have positive := Nat.two_pow_pos shift
      have restLt := Nat.mod_lt mantissa positive
      have nextRest : mantissa % 2 ^ (shift + 1) =
          mantissa % 2 ^ shift + 2 ^ shift * (mantissa / 2 ^ shift % 2) := by
        rw [Nat.pow_succ, Nat.mod_mul]
      show ExtendedMantissa.shiftRightOne
        (ExtendedMantissa.ofMantissaAndAccuracy mantissa .exact >>> shift) = _
      rw [inductionHypothesis, ExtendedMantissa.shiftRightOne, ExtendedMantissa.mk.injEq]
      refine ⟨?_, ?_, ?_⟩
      · rw [Nat.div_div_eq_div_mul, ← Nat.pow_succ]
      · rw [nextRest, Nat.pow_succ]
        rcases Nat.mod_two_eq_zero_or_one (mantissa / 2 ^ shift) with isEven | isOdd
        · simp [isEven]
          omega
        · simp [isOdd]
          omega
      · have doubled : 2 * (mantissa % 2 ^ (shift + 1)) % 2 ^ (shift + 1) =
            2 * (mantissa % 2 ^ shift) := by
          rw [nextRest, Nat.pow_succ, Nat.mul_comm (2 ^ shift) 2, Nat.mul_mod_mul_left,
            Nat.add_mul_mod_self_left, Nat.mod_eq_of_lt restLt]
        rw [doubled, ← Bool.decide_or, decide_eq_decide]
        constructor
        · rintro (atLeastHalf | inexact)
          · omega
          · rintro isZero
            rw [isZero, Nat.zero_mod] at inexact
            exact inexact rfl
        · intro nonzero
          rcases Nat.lt_or_ge (2 * (mantissa % 2 ^ shift)) (2 ^ shift) with belowHalf | atLeastHalf
          · rw [Nat.mod_eq_of_lt belowHalf]
            exact .inr nonzero
          · exact .inl atLeastHalf

theorem roundedMantissa_shiftRight_exact (mantissa shift : Nat) :
    (ExtendedMantissa.ofMantissaAndAccuracy mantissa .exact >>> shift).roundedMantissa =
      roundedShift mantissa shift := by
  have restLt := Nat.mod_lt mantissa (Nat.two_pow_pos shift)
  rw [shiftRight_exact, roundedShift, ExtendedMantissa.roundedMantissa]
  generalize mantissa % 2 ^ shift = rest at restLt ⊢
  dsimp only
  rcases Nat.lt_trichotomy (2 * rest) (2 ^ shift) with belowHalf | isHalf | aboveHalf
  · rw [if_pos belowHalf, Nat.mod_eq_of_lt belowHalf, decide_eq_false (Nat.not_le.mpr belowHalf)]
    cases decide (2 * rest ≠ 0) <;> rfl
  · rw [if_neg (by omega), if_pos isHalf, isHalf, Nat.mod_self, decide_eq_true (Nat.le_refl _)]
    rfl
  · have overHalf : 2 * rest % 2 ^ shift ≠ 0 := by
      rw [Nat.mod_eq_sub_mod (Nat.le_of_lt aboveHalf), Nat.mod_eq_of_lt (by omega)]
      omega
    rw [if_neg (by omega), if_neg (by omega), decide_eq_true (Nat.le_of_lt aboveHalf),
      decide_eq_true overHalf]
    rfl

/-! ## Doubles of numbers -/

/-- The unpacked double with a mantissa of at most fifty-three bits, or one more after a carry. -/
def settled (sign : Sign) (mantissa : Nat) (exponent : Int) : UnpackedFloat :=
  if isZero : mantissa = 0 then .zero sign
  else if mantissa < 2 ^ 53 then .finite sign mantissa exponent (Nat.pos_of_ne_zero isZero)
  else .finite sign (2 ^ 52) (exponent + 1) (by decide)

theorem settled_inj {significand other : Nat} {exponent : Int} (lower : 2 ^ 52 ≤ significand)
    (upper : significand ≤ 2 ^ 53) (otherLower : 2 ^ 52 ≤ other) (otherUpper : other ≤ 2 ^ 53)
    (same : settled .positive significand exponent = settled .positive other exponent) :
    significand = other := by
  rw [settled, settled, dif_neg (by omega), dif_neg (by omega)] at same
  split at same <;> split at same <;> injection same <;> omega

/-- The shift of a mantissa of at least fifty-three bits. -/
theorem shiftToTargetExponent_long {mantissa : Nat} {exponent : Int}
    (long : 52 ≤ mantissa.log2) (normal : -1074 ≤ exponent) :
    shiftToTargetExponent .binary64 mantissa exponent .exact =
      (ExtendedMantissa.ofMantissaAndAccuracy mantissa .exact >>> (mantissa.log2 - 52),
        exponent + (mantissa.log2 - 52 : Nat)) := by
  have target : Format.binary64.targetExponent (totalExponent mantissa exponent) =
      exponent + (mantissa.log2 - 52 : Nat) := by
    simp only [Format.targetExponent, totalExponent, Format.mantissaBits, Format.minExponent]
    omega
  have amount : (exponent + (mantissa.log2 - 52 : Nat) - exponent).toNat = mantissa.log2 - 52 := by
    omega
  rw [shiftToTargetExponent, target, shiftToExponent, amount]

theorem log2_eq_of_bounds {number bits : Nat} (lower : 2 ^ bits ≤ number)
    (upper : number < 2 ^ (bits + 1)) : number.log2 = bits := by
  have positive := Nat.two_pow_pos bits
  exact (Nat.log2_eq_iff (by omega)).mpr ⟨lower, upper⟩

/-- A mantissa of at least fifty-three bits is rounded to fifty-three of them. -/
theorem roundWithAccuracy_long (sign : Sign) {mantissa : Nat} {exponent : Int}
    (long : 52 ≤ mantissa.log2) (normal : -1074 ≤ exponent) :
    roundWithAccuracy .binary64 sign mantissa exponent .exact =
      settled sign (roundedShift mantissa (mantissa.log2 - 52))
        (exponent + (mantissa.log2 - 52 : Nat)) := by
  have length : mantissa.log2 = 52 + (mantissa.log2 - 52) := by omega
  obtain ⟨lower, upper⟩ := roundedShift_normal length
  rw [roundWithAccuracy, shiftToTargetExponent_long long normal]
  dsimp only
  rw [roundedMantissa_shiftRight_exact]
  generalize roundedShift mantissa (mantissa.log2 - 52) = rounded at lower upper ⊢
  have nonzero : rounded ≠ 0 := by omega
  rw [settled, dif_neg nonzero]
  rcases Nat.lt_or_eq_of_le upper with noCarry | carry
  · have fits : rounded.log2 = 52 := log2_eq_of_bounds lower noCarry
    have unshifted (exponent : Int) (normal : -1074 ≤ exponent) :
        shiftToTargetExponent .binary64 rounded exponent .exact =
          (⟨rounded, false, false⟩, exponent) := by
      rw [shiftToTargetExponent_long (Nat.le_of_eq fits.symm) normal, fits]
      exact Prod.ext rfl (Int.add_zero exponent)
    rw [unshifted _ (by omega), if_pos noCarry]
    exact dif_neg nonzero
  · subst carry
    rw [if_neg (Nat.lt_irrefl _), shiftToTargetExponent_long (by decide) (by omega)]
    rfl

/-- The double nearest to a natural number: its first fifty-three bits, rounded by those behind
them. A shorter number is filled up with zeros, as every number is before it is rounded. -/
def doubleOf (number : Nat) : UnpackedFloat :=
  settled .positive (roundedShift (number * 2 ^ 53) (number.log2 + 1)) (number.log2 - 52)

theorem doubleOf_of_long {number shift : Nat} (length : number.log2 = 52 + shift) :
    doubleOf number = settled .positive (roundedShift number shift) shift := by
  have exponent : ((52 + shift : Nat) : Int) - 52 = shift := by
    push_cast
    omega
  rw [doubleOf, length, show 52 + shift + 1 = shift + 53 by omega, roundedShift_mul_two_pow,
    exponent]

theorem log2_le_log2 {number larger : Nat} (nonzero : number ≠ 0) (atMost : number ≤ larger) :
    number.log2 ≤ larger.log2 :=
  (Nat.le_log2 (by omega)).mpr (Nat.le_trans (Nat.log2_self_le nonzero) atMost)

theorem log2_mul_two_pow_add {number bits rest : Nat} (nonzero : number ≠ 0)
    (small : rest < 2 ^ bits) : (number * 2 ^ bits + rest).log2 = number.log2 + bits := by
  refine log2_eq_of_bounds ?_ ?_
  · rw [Nat.pow_add]
    exact Nat.le_trans (Nat.mul_le_mul_right _ (Nat.log2_self_le nonzero)) (Nat.le_add_right _ _)
  · rw [Nat.add_right_comm, Nat.pow_add]
    calc number * 2 ^ bits + rest < (number + 1) * 2 ^ bits := by
          rw [Nat.add_mul, Nat.one_mul]
          omega
      _ ≤ 2 ^ (number.log2 + 1) * 2 ^ bits := Nat.mul_le_mul_right _ Nat.lt_log2_self

theorem log2_mul_two_pow {number : Nat} (nonzero : number ≠ 0) (bits : Nat) :
    (number * 2 ^ bits).log2 = number.log2 + bits :=
  log2_mul_two_pow_add nonzero (Nat.two_pow_pos bits)

/-- The lengths of two mantissas that stand for the same number. -/
theorem log2_add_of_same {mantissa number up down : Nat} (nonzero : number ≠ 0)
    (same : mantissa * 2 ^ up = number * 2 ^ down) :
    mantissa.log2 + up = number.log2 + down := by
  have mantissaNonzero : mantissa ≠ 0 := by
    rintro rfl
    rw [Nat.zero_mul] at same
    exact Nat.mul_ne_zero nonzero (Nat.ne_of_gt (Nat.two_pow_pos down)) same.symm
  rw [← log2_mul_two_pow mantissaNonzero, same, log2_mul_two_pow nonzero]

/-- The rounded mantissa of a number does not depend on how the number is scaled. -/
theorem roundedShift_of_same {mantissa number up down : Nat} (nonzero : number ≠ 0)
    (same : mantissa * 2 ^ up = number * 2 ^ down) (long : 52 ≤ mantissa.log2) :
    roundedShift mantissa (mantissa.log2 - 52) =
      roundedShift (number * 2 ^ 53) (number.log2 + 1) := by
  have lengths := log2_add_of_same nonzero same
  have scaled : mantissa * 2 ^ (up + 53) = number * 2 ^ 53 * 2 ^ down := by
    rw [Nat.pow_add, ← Nat.mul_assoc, same, Nat.mul_assoc, Nat.mul_comm (2 ^ down), Nat.mul_assoc]
  have shift : mantissa.log2 - 52 + (up + 53) = number.log2 + 1 + down := by omega
  rw [← roundedShift_mul_two_pow mantissa _ (up + 53), scaled, shift, roundedShift_mul_two_pow]

theorem roundWithAccuracy_eq_doubleOf {mantissa number up down : Nat} {exponent : Int}
    (nonzero : number ≠ 0) (same : mantissa * 2 ^ up = number * 2 ^ down)
    (isExponent : exponent = up - down) (long : 52 ≤ mantissa.log2) (normal : -1074 ≤ exponent) :
    roundWithAccuracy .binary64 .positive mantissa exponent .exact = doubleOf number := by
  have lengths := log2_add_of_same nonzero same
  have sameExponent : exponent + (mantissa.log2 - 52 : Nat) = number.log2 - 52 := by omega
  rw [roundWithAccuracy_long .positive long normal, roundedShift_of_same nonzero same long,
    sameExponent, doubleOf]

/-- Rounding a mantissa of any length gives the double of the number that it stands for. -/
theorem round_eq_doubleOf {mantissa number up down : Nat} {exponent : Int}
    (nonzero : number ≠ 0) (same : mantissa * 2 ^ up = number * 2 ^ down)
    (isExponent : exponent = up - down) (normal : -1022 ≤ exponent) :
    UnpackedFloat.round .binary64 .positive mantissa exponent = doubleOf number := by
  have mantissaNonzero : mantissa ≠ 0 := by
    rintro rfl
    rw [Nat.zero_mul] at same
    exact Nat.mul_ne_zero nonzero (Nat.ne_of_gt (Nat.two_pow_pos down)) same.symm
  have amount : (exponent - Format.binary64.targetExponent (totalExponent mantissa exponent)).toNat =
      52 - mantissa.log2 := by
    simp only [Format.targetExponent, totalExponent, Format.mantissaBits, Format.minExponent]
    omega
  have filledSame : mantissa * 2 ^ (52 - mantissa.log2) * 2 ^ up =
      number * 2 ^ (down + (52 - mantissa.log2)) := by
    rw [Nat.mul_right_comm, same, Nat.mul_assoc, ← Nat.pow_add]
  rw [UnpackedFloat.round, decreaseExponent, amount, Nat.shiftLeft_eq]
  refine roundWithAccuracy_eq_doubleOf nonzero filledSame ?_ ?_ ?_
  · push_cast
    omega
  · rw [log2_mul_two_pow mantissaNonzero]
    omega
  · omega

end SyntaxQuery
