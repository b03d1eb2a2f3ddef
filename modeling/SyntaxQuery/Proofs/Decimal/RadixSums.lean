import SyntaxQuery.Decimal.Numeral
import SyntaxQuery.Proofs.Decimal.Digits
import SyntaxQuery.Proofs.Decimal.NearestDoubles

/-!
Contract: the sums of the digits of radix numerals, in doubles.

As long as the sum is shorter than fifty-four bits, the next sum is the double nearest to the exact
one. After that the product is as exact as the sum was, and the digit is lost. So a numeral has the
double of its number with zeros for the digits that are lost (`keptPart`). That is the double of the
number itself, except where only lost digits show that the number is above the middle of two doubles
(`nearest_keptPart_eq_iff`).

Does not own: the texts of numerals.
-/

namespace SyntaxQuery

/-- The number with zeros for the digits that follow when fifty-four bits have been read, each digit
having the given number of bits. -/
def keptPart (bits number : Nat) : Nat :=
  let lost := bits * ((number.log2 - 53) / bits)
  number / 2 ^ lost * 2 ^ lost

/-- The digits that are lost break a tie between two doubles. -/
def LosesTie (bits number : Nat) : Prop :=
  keptPart bits number < number ∧ number.log2 < 1024 ∧
    keptPart bits number % 2 ^ (number.log2 - 53 + 2) = 2 ^ (number.log2 - 53)

instance (bits number : Nat) : Decidable (LosesTie bits number) :=
  inferInstanceAs (Decidable (_ ∧ _ ∧ _))

section Digits

variable {bits number : Nat}

theorem keptPart_of_short (short : number < 2 ^ (53 + bits)) : keptPart bits number = number := by
  have length : number.log2 < 53 + bits := log2_lt_of_lt_two_pow (by omega) short
  have noneLost : (number.log2 - 53) / bits = 0 := by
    rw [Nat.div_eq_zero_iff]
    omega
  rw [keptPart, noneLost, Nat.mul_zero, Nat.pow_zero, Nat.div_one, Nat.mul_one]

theorem keptPart_le (bits number : Nat) : keptPart bits number ≤ number :=
  Nat.div_mul_le_self _ _

/-- The first bit is kept. -/
theorem two_pow_log2_le_keptPart (nonzero : number ≠ 0) :
    2 ^ number.log2 ≤ keptPart bits number := by
  have lostLe : bits * ((number.log2 - 53) / bits) ≤ number.log2 :=
    Nat.le_trans (Nat.mul_div_le _ _) (Nat.sub_le _ _)
  unfold keptPart
  dsimp only
  generalize bits * ((number.log2 - 53) / bits) = lost at lostLe ⊢
  calc 2 ^ number.log2 = 2 ^ (number.log2 - lost) * 2 ^ lost := by
        rw [← Nat.pow_add, Nat.sub_add_cancel lostLe]
    _ ≤ number / 2 ^ lost * 2 ^ lost := by
        refine Nat.mul_le_mul_right _ ?_
        rw [Nat.le_div_iff_mul_le (Nat.two_pow_pos lost), ← Nat.pow_add,
          Nat.sub_add_cancel lostLe]
        exact Nat.log2_self_le nonzero

variable {digit : Nat}

/-- Once the number has fifty-four bits, the next digit is lost. -/
theorem keptPart_of_long (positive : 0 < bits) (long : 2 ^ 53 ≤ number)
    (small : digit < 2 ^ bits) :
    keptPart bits (number * 2 ^ bits + digit) = keptPart bits number * 2 ^ bits := by
  have nonzero : number ≠ 0 := by omega
  have length : 53 ≤ number.log2 := (Nat.le_log2 nonzero).mpr long
  have oneMore : bits * ((number.log2 + bits - 53) / bits) =
      bits + bits * ((number.log2 - 53) / bits) := by
    rw [show number.log2 + bits - 53 = number.log2 - 53 + bits by omega,
      Nat.add_div_right _ positive, Nat.mul_succ, Nat.add_comm]
  unfold keptPart
  dsimp only
  rw [log2_mul_two_pow_add nonzero small, oneMore, Nat.pow_add, ← Nat.div_div_eq_div_mul,
    Nat.mul_comm number, Nat.mul_add_div (Nat.two_pow_pos bits), Nat.div_eq_of_lt small,
    Nat.add_zero, Nat.mul_assoc, Nat.mul_comm (2 ^ bits)]

/-! ## Sums -/

/-- One more digit in doubles: the digit is added exactly, or it is lost. -/
theorem nearest_keptPart_step (positive : 0 < bits) (few : bits ≤ 4) (small : digit < 2 ^ bits) :
    nearest (keptPart bits number) * nearest (2 ^ bits) + nearest digit =
      nearest (keptPart bits (number * 2 ^ bits + digit)) := by
  have notMany : bits ≤ 52 := by omega
  have digitShort : digit < 2 ^ 53 :=
    Nat.lt_trans small (Nat.pow_lt_pow_right (by decide) (by omega))
  rw [nearest_mul_two_pow _ notMany]
  rcases Nat.lt_or_ge number (2 ^ 53) with short | long
  · have sumShort : number * 2 ^ bits + digit < 2 ^ (53 + bits) := by
      rw [Nat.pow_add]
      calc number * 2 ^ bits + digit < (number + 1) * 2 ^ bits := by
            rw [Nat.add_mul, Nat.one_mul]
            omega
        _ ≤ 2 ^ 53 * 2 ^ bits := Nat.mul_le_mul_right _ short
    have product : roundedNat (number * 2 ^ bits) = number * 2 ^ bits := by
      rw [roundedNat_mul_two_pow, roundedNat_of_short short]
    have productSmall : (roundedNat (number * 2 ^ bits)).log2 < 1024 := by
      have productLength : (number * 2 ^ bits).log2 < 53 + bits :=
        log2_lt_of_lt_two_pow (by omega) (by omega)
      rw [product]
      omega
    rw [keptPart_of_short (Nat.lt_of_lt_of_le short (Nat.pow_le_pow_right (by decide) (by omega))),
      keptPart_of_short sumShort, nearest_add productSmall (log2_roundedNat_of_short digitShort),
      product, roundedNat_of_short digitShort]
  · -- The product is longer than the digit by more than a double has bits.
    have nonzero : number ≠ 0 := by omega
    have length : 53 ≤ number.log2 := (Nat.le_log2 nonzero).mpr long
    have keptNonzero : keptPart bits number ≠ 0 :=
      Nat.ne_of_gt (Nat.lt_of_lt_of_le (Nat.two_pow_pos _) (two_pow_log2_le_keptPart nonzero))
    have keptLength : number.log2 ≤ (keptPart bits number).log2 :=
      (Nat.le_log2 keptNonzero).mpr (two_pow_log2_le_keptPart nonzero)
    have productLong : 53 + bits ≤ (keptPart bits number * 2 ^ bits).log2 := by
      rw [log2_mul_two_pow keptNonzero]
      omega
    rw [keptPart_of_long positive long small, nearest_add_of_negligible productLong small notMany]

end Digits

/-- The sum that the value of a radix numeral is, if all its characters are digits. -/
def radixSum (base : Nat) (digits : List Char) : Option Float :=
  digits.foldl (fun total? character => do
    let total ← total?
    let digit ← digitOf? base character
    pure (total * Float.ofNat base + Float.ofNat digit)) (some 0.0)

theorem digit_lt_of_digitOf? {base digit : Nat} {character : Char}
    (isDigit : digitOf? base character = some digit) : digit < base :=
  of_decide_eq_true (Option.filter_eq_some_iff.mp isDigit).2

theorem radixSum_eq {bits : Nat} (positive : 0 < bits) (few : bits ≤ 4) (digits : List Char) :
    radixSum (2 ^ bits) digits =
      (natOfDigits? (2 ^ bits) digits).map fun number => nearest (keptPart bits number) := by
  have ofNat (number : Nat) : Float.ofNat number = nearest number := ofScientific_eq_nearest number
  -- The sums are folds from the left, so that the induction takes digits off at the end.
  induction digits using List.reverseRecOn with
  | nil =>
      show some (0.0 : Float) = some (nearest (keptPart bits 0))
      rw [keptPart_of_short (Nat.two_pow_pos _)]
      rfl
  | append_singleton digits character inductionHypothesis =>
      have lastSum : radixSum (2 ^ bits) (digits ++ [character]) =
          (radixSum (2 ^ bits) digits).bind fun total =>
            (digitOf? (2 ^ bits) character).bind fun digit =>
              some (total * nearest (2 ^ bits) + nearest digit) := by
        simp only [radixSum, List.foldl_append, List.foldl_cons, List.foldl_nil, ofNat]
        rfl
      rw [lastSum, natOfDigits?_concat, inductionHypothesis]
      cases natOfDigits? (2 ^ bits) digits with
      | none => rfl
      | some number =>
          cases isDigit : digitOf? (2 ^ bits) character with
          | none => rfl
          | some digit =>
              exact congrArg some
                (nearest_keptPart_step positive few (digit_lt_of_digitOf? isDigit))

theorem radixValue_eq_radixSum {base : Nat} {digits : List Char} (nonempty : digits ≠ []) :
    Numeral.radixValue base digits = (radixSum base digits).getD Decimal.notANumber :=
  if_neg nonempty

/-- The value of a radix numeral is the double of the part that is kept of its number. -/
theorem radixValue_eq_nearest {bits number : Nat} {digits : List Char} (positive : 0 < bits)
    (few : bits ≤ 4) (nonempty : digits ≠ [])
    (isNumber : natOfDigits? (2 ^ bits) digits = some number) :
    Numeral.radixValue (2 ^ bits) digits = nearest (keptPart bits number) := by
  rw [radixValue_eq_radixSum nonempty, radixSum_eq positive few, isNumber]
  rfl

/-! ## Ties -/

/-- A shift looks at the last bit that it drops and at whether anything stands behind it. -/
theorem roundedShift_succ (number shift : Nat) :
    roundedShift number (shift + 1) =
      if number / 2 ^ shift % 2 = 0 then number / 2 ^ shift / 2
      else if number % 2 ^ shift = 0 then
        number / 2 ^ shift / 2 + number / 2 ^ shift / 2 % 2
      else number / 2 ^ shift / 2 + 1 := by
  have restLt := Nat.mod_lt number (Nat.two_pow_pos shift)
  have rest : number % 2 ^ (shift + 1) =
      number % 2 ^ shift + 2 ^ shift * (number / 2 ^ shift % 2) := by
    rw [Nat.pow_succ, Nat.mod_mul]
  unfold roundedShift
  dsimp only
  rw [rest, Nat.pow_succ, ← Nat.div_div_eq_div_mul]
  generalize number % 2 ^ shift = behind at restLt ⊢
  rcases Nat.mod_two_eq_zero_or_one (number / 2 ^ shift) with isEven | isOdd
  · rw [isEven, Nat.mul_zero, if_pos rfl, if_pos (by omega)]
  · rw [isOdd, Nat.mul_one, if_neg Nat.one_ne_zero, if_neg (by omega)]
    by_cases isExact : behind = 0
    · rw [if_pos isExact, if_pos (by omega)]
    · rw [if_neg isExact, if_neg (by omega)]

/-- Losing bits behind the last one that is dropped matters if that bit is one, the bit before it is
zero and nothing else stands behind. -/
theorem roundedShift_eq_iff {kept number shift : Nat}
    (sameQuotient : kept / 2 ^ shift = number / 2 ^ shift) (less : kept < number) :
    roundedShift kept (shift + 1) = roundedShift number (shift + 1) ↔
      kept % 2 ^ (shift + 2) ≠ 2 ^ shift := by
  have keptRestLt := Nat.mod_lt kept (Nat.two_pow_pos shift)
  have keptParts := Nat.div_add_mod kept (2 ^ shift)
  have parts := Nat.div_add_mod number (2 ^ shift)
  have lastBits : kept % 2 ^ (shift + 2) =
      kept % 2 ^ shift + 2 ^ shift * (number / 2 ^ shift % 4) := by
    rw [Nat.pow_add, Nat.mod_mul, sameQuotient]
  rw [sameQuotient] at keptParts
  have restNonzero : number % 2 ^ shift ≠ 0 := by omega
  rw [roundedShift_succ, roundedShift_succ, sameQuotient, lastBits, if_neg restNonzero]
  generalize number / 2 ^ shift = quotient at *
  have fourth : quotient % 4 < 4 := Nat.mod_lt _ (by decide)
  by_cases isEven : quotient % 2 = 0
  · rw [if_pos isEven, if_pos isEven]
    rcases (by omega : quotient % 4 = 0 ∨ quotient % 4 = 2) with isLast | isLast <;>
      rw [isLast] <;> omega
  · rw [if_neg isEven, if_neg isEven]
    rcases (by omega : quotient % 4 = 1 ∨ quotient % 4 = 3) with isLast | isLast <;>
      rw [isLast] <;> split <;> omega

/-- At a tie above an even number, rounding up does not carry. -/
theorem roundedShift_lt_of_tie {kept number shift : Nat} (short : number < 2 ^ (shift + 54))
    (sameQuotient : kept / 2 ^ (shift + 1) = number / 2 ^ (shift + 1))
    (tie : kept % 2 ^ (shift + 2) = 2 ^ shift) :
    roundedShift kept (shift + 1) < 2 ^ 53 ∧ roundedShift number (shift + 1) < 2 ^ 53 := by
  have keptBounds := roundedShift_bounds kept (shift + 1)
  have bounds := roundedShift_bounds number (shift + 1)
  have isEven : number / 2 ^ (shift + 1) % 2 = 0 := by
    have lastBits : kept % 2 ^ (shift + 2) =
        kept % 2 ^ (shift + 1) + 2 ^ (shift + 1) * (number / 2 ^ (shift + 1) % 2) := by
      rw [← sameQuotient, ← Nat.mod_mul, ← Nat.pow_succ]
    have positive := Nat.two_pow_pos shift
    rcases Nat.mod_two_eq_zero_or_one (number / 2 ^ (shift + 1)) with isEven | isOdd
    · exact isEven
    · rw [tie, isOdd, Nat.pow_succ] at lastBits
      omega
  have below : number / 2 ^ (shift + 1) < 2 ^ 53 := by
    rw [Nat.div_lt_iff_lt_mul (Nat.two_pow_pos _), ← Nat.pow_add]
    exact Nat.lt_of_lt_of_eq short (congrArg _ (by omega))
  omega

theorem doubleOf_eq_iff_of_long {first second shift : Nat} (length : first.log2 = 52 + shift)
    (sameLength : second.log2 = 52 + shift) :
    doubleOf first = doubleOf second ↔ roundedShift first shift = roundedShift second shift := by
  obtain ⟨lower, upper⟩ := roundedShift_normal length
  obtain ⟨otherLower, otherUpper⟩ := roundedShift_normal sameLength
  rw [doubleOf_of_long length, doubleOf_of_long sameLength]
  exact ⟨settled_inj lower upper otherLower otherUpper, fun same => by rw [same]⟩

/-- Rounding that does not carry makes no number longer. -/
theorem log2_roundedNat_of_no_carry {number shift : Nat} (length : number.log2 = 52 + shift)
    (noCarry : roundedShift number shift < 2 ^ 53) : (roundedNat number).log2 ≤ number.log2 := by
  have rounded : roundedNat number * 2 ^ 52 = roundedShift number shift * 2 ^ number.log2 := by
    rw [roundedNat_mul, show number.log2 + 1 = shift + 53 by omega, roundedShift_mul_two_pow]
  have below : roundedNat number < 2 ^ (number.log2 + 1) := by
    refine Nat.lt_of_mul_lt_mul_right (a := 2 ^ 52) ?_
    calc roundedNat number * 2 ^ 52 < 2 ^ 53 * 2 ^ number.log2 := by
          rw [rounded]
          exact Nat.mul_lt_mul_of_pos_right noCarry (Nat.two_pow_pos _)
      _ = 2 ^ (number.log2 + 1) * 2 ^ 52 := by
          rw [← Nat.pow_add, ← Nat.pow_add]
          exact congrArg _ (by omega)
  exact Nat.le_of_lt_succ (log2_lt_of_lt_two_pow (Nat.succ_pos _) below)

/-- The quotients by powers of two that are not below the lost digits are kept. -/
theorem keptPart_div {bits number shift : Nat} (behind : number.log2 - 53 ≤ shift) :
    keptPart bits number / 2 ^ shift = number / 2 ^ shift := by
  have lostLe : bits * ((number.log2 - 53) / bits) ≤ shift :=
    Nat.le_trans (Nat.mul_div_le _ _) behind
  unfold keptPart
  dsimp only
  generalize bits * ((number.log2 - 53) / bits) = lost at lostLe ⊢
  obtain ⟨more, rfl⟩ := Nat.exists_eq_add_of_le lostLe
  rw [Nat.pow_add, ← Nat.div_div_eq_div_mul, ← Nat.div_div_eq_div_mul,
    Nat.mul_div_cancel _ (Nat.two_pow_pos lost)]

theorem log2_keptPart (bits : Nat) {number : Nat} (nonzero : number ≠ 0) :
    (keptPart bits number).log2 = number.log2 :=
  log2_eq_of_bounds (two_pow_log2_le_keptPart nonzero)
    (Nat.lt_of_le_of_lt (keptPart_le bits number) Nat.lt_log2_self)

theorem log2_le_of_keptPart_lt {bits number : Nat} (less : keptPart bits number < number) :
    53 ≤ number.log2 := by
  refine Nat.le_of_not_lt fun short => Nat.ne_of_lt less (keptPart_of_short ?_)
  have below : number < 2 ^ (number.log2 + 1) := Nat.lt_log2_self
  exact Nat.lt_of_lt_of_le below (Nat.pow_le_pow_right (by decide) (by omega))

/-- Without a carry the doubles are finite, so that none of them is lost in packing. -/
theorem nearest_eq_iff_of_no_carry {first second shift : Nat} (length : first.log2 = 52 + shift)
    (sameLength : second.log2 = 52 + shift) (small : 52 + shift < 1024)
    (noCarry : roundedShift first shift < 2 ^ 53) (otherNoCarry : roundedShift second shift < 2 ^ 53) :
    nearest first = nearest second ↔ doubleOf first = doubleOf second := by
  have firstSmall := log2_roundedNat_of_no_carry length noCarry
  have secondSmall := log2_roundedNat_of_no_carry sameLength otherNoCarry
  constructor
  · intro same
    rw [← unpack_nearest (by omega), same, unpack_nearest (by omega)]
  · intro same
    rw [nearest, nearest, same]

/-- The lost digits matter if and only if they break a tie. The kept part has the length of the
number, so that the doubles differ only by what the last bit is rounded to. -/
theorem nearest_keptPart_eq_iff (bits number : Nat) :
    nearest (keptPart bits number) = nearest number ↔ ¬ LosesTie bits number := by
  rcases Nat.lt_or_eq_of_le (keptPart_le bits number) with less | noneLost
  · have long := log2_le_of_keptPart_lt less
    have nonzero : number ≠ 0 := by omega
    have sameLog2 := log2_keptPart bits nonzero
    obtain ⟨shift, isShift⟩ := Nat.exists_eq_add_of_le long
    have length : number.log2 = 52 + (shift + 1) := by omega
    have keptLength : (keptPart bits number).log2 = 52 + (shift + 1) := by omega
    have sameDouble := (doubleOf_eq_iff_of_long keptLength length).trans
      (roundedShift_eq_iff (keptPart_div (by omega)) less)
    rw [LosesTie, show number.log2 - 53 = shift by omega]
    rcases Nat.lt_or_ge number.log2 1024 with small | large
    · by_cases tie : keptPart bits number % 2 ^ (shift + 2) = 2 ^ shift
      · have below : number < 2 ^ (shift + 54) := by
          rw [show shift + 54 = number.log2 + 1 by omega]
          exact Nat.lt_log2_self
        have noCarry := roundedShift_lt_of_tie below (keptPart_div (by omega)) tie
        rw [nearest_eq_iff_of_no_carry keptLength length (by omega) noCarry.1 noCarry.2, sameDouble]
        exact iff_of_false (fun noTie => noTie tie) fun keepsTie => keepsTie ⟨less, small, tie⟩
      · rw [nearest, nearest, sameDouble.mpr tie]
        exact iff_of_true rfl fun losesTie => tie losesTie.2.2
    -- Where the numbers are too large, both doubles are infinity.
    · have keptNonzero : keptPart bits number ≠ 0 := by
        intro isZero
        rw [isZero, Nat.log2_zero] at keptLength
        omega
      have roundedLarge := log2_le_log2_roundedNat nonzero
      have keptLarge := log2_le_log2_roundedNat keptNonzero
      rw [nearest_of_large (by omega), nearest_of_large (by omega)]
      exact iff_of_true rfl fun losesTie => Nat.not_lt.mpr large losesTie.2.1
  · rw [noneLost]
    exact iff_of_true rfl fun losesTie => Nat.ne_of_lt losesTie.1 noneLost

end SyntaxQuery
