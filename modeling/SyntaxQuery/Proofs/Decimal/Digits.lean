import SyntaxQuery.Decimal.Basic

/-!
Contract: natural numbers and their decimal digits.

A number is read back from its digits, with zeros in front or not, by either of the two readers of
digits: they agree on texts that have digits only.

Does not own: signs, fractions and exponents.
-/

namespace SyntaxQuery

theorem isDecimalDigit_of_mem_toDigits {value : Nat} {character : Char}
    (isDigit : character ∈ Nat.toDigits 10 value) : isDecimalDigit character = true :=
  Nat.isDigit_of_mem_toDigits (by decide) (by decide) isDigit

theorem natOfDigits_toDigits (value : Nat) : natOfDigits (Nat.toDigits 10 value) = value := by
  have sum (digits : List Char) (total : Nat) :
      digits.foldl (fun total character => total * 10 + digitValue character) total =
        Nat.ofDigitChars 10 digits total := by
    induction digits generalizing total with
    | nil => rfl
    | cons digit rest inductionHypothesis =>
        rw [List.foldl_cons, inductionHypothesis, Nat.ofDigitChars_cons, Nat.mul_comm]
        rfl
  rw [natOfDigits, sum, Nat.ofDigitChars_ten_toDigits]

theorem natOfDigits_zeros_append (count : Nat) (digits : List Char) :
    natOfDigits (List.replicate count '0' ++ digits) = natOfDigits digits := by
  induction count with
  | zero => rfl
  | succ count inductionHypothesis => exact inductionHypothesis

theorem digitOf?_ten {character : Char} (isDigit : isDecimalDigit character = true) :
    digitOf? 10 character = some (digitValue character) := by
  have small : digitValue character < 10 := by
    rw [isDecimalDigit, Bool.and_eq_true, decide_eq_true_eq, decide_eq_true_eq, Char.le_def,
      Char.le_def] at isDigit
    have atMost : character.toNat ≤ 57 := UInt32.le_iff_toNat_le.mp isDigit.2
    show character.toNat - 48 < 10
    omega
  rw [digitOf?, if_pos isDigit]
  exact if_pos (decide_eq_true small)

/-- On decimal digits the reader in base ten never fails. -/
theorem natOfDigits?_ten {digits : List Char}
    (allDigits : ∀ character ∈ digits, isDecimalDigit character = true) :
    natOfDigits? 10 digits = some (natOfDigits digits) := by
  have sum (rest : List Char) (areDigits : ∀ character ∈ rest, isDecimalDigit character = true)
      (total : Nat) :
      rest.foldl (fun total? character => do
          let total ← total?
          let digit ← digitOf? 10 character
          pure (total * 10 + digit)) (some total) =
        some (rest.foldl (fun total character => total * 10 + digitValue character) total) := by
    induction rest generalizing total with
    | nil => rfl
    | cons digit rest inductionHypothesis =>
        obtain ⟨isDigit, restDigits⟩ := List.forall_mem_cons.mp areDigits
        rw [List.foldl_cons, List.foldl_cons, digitOf?_ten isDigit]
        exact inductionHypothesis restDigits _
  exact sum digits allDigits 0

/-- The digits are read from the left. -/
theorem natOfDigits?_concat (base : Nat) (digits : List Char) (character : Char) :
    natOfDigits? base (digits ++ [character]) =
      (natOfDigits? base digits).bind fun number =>
        (digitOf? base character).bind fun digit => some (number * base + digit) := by
  rw [natOfDigits?, List.foldl_append]
  rfl

end SyntaxQuery
