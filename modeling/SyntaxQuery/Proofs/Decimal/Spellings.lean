import SyntaxQuery.Proofs.Decimal.Digits
import SyntaxQuery.Proofs.Decimal.RadixSums
import SyntaxQuery.Proofs.Text.Trimming
import SyntaxQuery.Tree.Value

/-!
Contract: the numbers that attribute texts count as, if the texts spell natural numbers.

Owns:
- positional notation in any base, with zeros in front or not and letters of either case;
- the double of a decimal text, which is the nearest one;
- the double of a text with a radix mark, and when it is the nearest one.

Does not own: texts that spell other numbers or none.
-/

namespace SyntaxQuery

/-! ## Positional notation -/

/-- The character is a visible one of ASCII. -/
def IsVisible (character : Char) : Prop :=
  0x20 < character.toNat ∧ character.toNat < 0x7F

instance (character : Char) : Decidable (IsVisible character) :=
  inferInstanceAs (Decidable (_ ∧ _))

theorem isBlank_of_isVisible {character : Char} (isVisible : IsVisible character) :
    Text.isBlank character = false := by
  unfold IsVisible at isVisible
  simp only [Text.isBlank, Bool.or_eq_false_iff, Bool.and_eq_false_iff, decide_eq_false_iff_not,
    beq_eq_false_iff_ne]
  omega

/-- The character is the digit of the value, a letter in either case. -/
def IsDigit (value : Nat) (character : Char) : Prop :=
  character = Nat.digitChar value ∨ character = (Nat.digitChar value).toUpper

/-- Digits of the base, or none. -/
def AreDigits (base : Nat) (text : List Char) : Prop :=
  ∀ character ∈ text, ∃ value < base, IsDigit value character

/-- The digits spell the number in the base. Zeros may stand in front. -/
inductive SpellsNumber (base : Nat) : Nat → List Char → Prop
  | digit {value : Nat} {character : Char} (small : value < base)
      (isDigit : IsDigit value character) : SpellsNumber base value [character]
  | append {number value : Nat} {digits : List Char} {character : Char}
      (spelled : SpellsNumber base number digits) (small : value < base)
      (isDigit : IsDigit value character) :
      SpellsNumber base (number * base + value) (digits ++ [character])

/-- The letters that mark a radix, with the number of bits of a digit. -/
def radixLetters : List (Char × Nat) :=
  [('x', 4), ('X', 4), ('o', 3), ('O', 3), ('b', 1), ('B', 1)]

theorem radixLetters_range :
    ∀ entry ∈ radixLetters, 0 < entry.2 ∧ entry.2 ≤ 4 ∧ IsVisible entry.1 := by
  decide

/-- The text is a radix mark and digits that spell the number. -/
inductive SpellsMarked (bits number : Nat) : List Char → Prop
  | mk {letter : Char} {digits : List Char} (isLetter : (letter, bits) ∈ radixLetters)
      (spelled : SpellsNumber (2 ^ bits) number digits) :
      SpellsMarked bits number ('0' :: letter :: digits)

theorem digitOf?_of_isDigit {base value : Nat} {character : Char} (small : value < base)
    (few : base ≤ 16) (isDigit : IsDigit value character) :
    digitOf? base character = some value := by
  have hexadecimal : ∀ value < 16, digitOf? 16 (Nat.digitChar value) = some value ∧
      digitOf? 16 (Nat.digitChar value).toUpper = some value := by decide
  obtain ⟨lower, upper⟩ := hexadecimal value (by omega)
  have inSixteen : digitOf? 16 character = some value := by
    rcases isDigit with rfl | rfl
    · exact lower
    · exact upper
  rw [digitOf?, Option.filter_eq_some_iff] at inSixteen ⊢
  exact ⟨inSixteen.1, decide_eq_true small⟩

theorem IsDigit.isVisible {value : Nat} {character : Char} (isDigit : IsDigit value character)
    (small : value < 16) : IsVisible character := by
  have visible : ∀ value < 16, IsVisible (Nat.digitChar value) ∧
      IsVisible (Nat.digitChar value).toUpper := by decide
  rcases isDigit with rfl | rfl
  · exact (visible value small).1
  · exact (visible value small).2

theorem IsDigit.isDecimalDigit {value : Nat} {character : Char} (isDigit : IsDigit value character)
    (small : value < 10) : isDecimalDigit character = true := by
  have decimal : ∀ value < 10, SyntaxQuery.isDecimalDigit (Nat.digitChar value) = true ∧
      SyntaxQuery.isDecimalDigit (Nat.digitChar value).toUpper = true := by decide
  rcases isDigit with rfl | rfl
  · exact (decimal value small).1
  · exact (decimal value small).2

namespace AreDigits

variable {base : Nat} {digits : List Char}

theorem isVisible (areDigits : AreDigits base digits) (few : base ≤ 16) :
    ∀ character ∈ digits, IsVisible character := by
  intro character member
  obtain ⟨value, small, isDigit⟩ := areDigits character member
  exact isDigit.isVisible (Nat.lt_of_lt_of_le small few)

theorem isDecimalDigit (areDigits : AreDigits 10 digits) :
    ∀ character ∈ digits, SyntaxQuery.isDecimalDigit character = true := by
  intro character member
  obtain ⟨value, small, isDigit⟩ := areDigits character member
  exact isDigit.isDecimalDigit small

end AreDigits

namespace SpellsNumber

variable {base number : Nat} {digits : List Char}

theorem ne_nil (spelled : SpellsNumber base number digits) : digits ≠ [] := by
  cases spelled with
  | digit => exact List.cons_ne_nil _ _
  | append => exact List.append_ne_nil_of_right_ne_nil _ (List.cons_ne_nil _ _)

theorem natOfDigits?_eq (spelled : SpellsNumber base number digits) (few : base ≤ 16) :
    natOfDigits? base digits = some number := by
  induction spelled with
  | @digit value character small isDigit =>
      show (digitOf? base character).bind (fun digit => some (0 * base + digit)) = some value
      rw [digitOf?_of_isDigit small few isDigit, Nat.zero_mul]
      exact congrArg some (Nat.zero_add value)
  | @append number value digits character spelled small isDigit inductionHypothesis =>
      rw [natOfDigits?_concat, inductionHypothesis, digitOf?_of_isDigit small few isDigit]
      rfl

theorem areDigits (spelled : SpellsNumber base number digits) : AreDigits base digits := by
  induction spelled with
  | @digit value character small isDigit =>
      exact List.forall_mem_singleton.mpr ⟨value, small, isDigit⟩
  | @append number value digits character spelled small isDigit inductionHypothesis =>
      exact List.forall_mem_append.mpr
        ⟨inductionHypothesis, List.forall_mem_singleton.mpr ⟨value, small, isDigit⟩⟩

theorem natOfDigits_eq (spelled : SpellsNumber 10 number digits) : natOfDigits digits = number := by
  have isNumber := spelled.natOfDigits?_eq (by decide)
  rw [natOfDigits?_ten spelled.areDigits.isDecimalDigit] at isNumber
  exact Option.some.inj isNumber

/-- Every number is spelled by its digits. -/
theorem toDigits (several : 1 < base) (number : Nat) :
    SpellsNumber base number (Nat.toDigits base number) := by
  induction number using Nat.strongRecOn with
  | ind number inductionHypothesis =>
      rcases Nat.lt_or_ge number base with small | large
      · rw [Nat.toDigits_of_lt_base small]
        exact .digit small (.inl rfl)
      · have before : number / base < number :=
          Nat.div_lt_self (by omega) several
        have spelled := append (inductionHypothesis _ before)
          (Nat.mod_lt number (by omega)) (.inl rfl)
        rwa [Nat.div_add_mod', ← Nat.toDigits_of_base_le several large] at spelled

end SpellsNumber

/-! ## Values of texts -/

namespace Numeral

theorem value_of_radix {text : String} {base : Nat} {digits : List Char}
    (isRadix : radix? (Text.trim text.toList) = some (base, digits)) :
    value text = radixValue base digits := by
  unfold value
  dsimp only
  generalize Text.trim text.toList = trimmed at isRadix ⊢
  rw [isRadix, if_neg, if_neg, if_neg]
  · rintro rfl
    cases isRadix
  · rintro (rfl | rfl) <;> cases isRadix
  · rintro rfl
    cases isRadix

theorem value_of_decimal {text : String} {decimal : Decimal}
    (noRadix : radix? (Text.trim text.toList) = none)
    (isDecimal : decimal? (Text.trim text.toList) = some decimal) :
    value text = decimal.toFloat := by
  unfold value
  dsimp only
  generalize Text.trim text.toList = trimmed at noRadix isDecimal ⊢
  rw [noRadix, isDecimal, if_neg, if_neg, if_neg]
  · rintro rfl
    cases isDecimal
  · rintro (rfl | rfl) <;> cases isDecimal
  · rintro rfl
    cases isDecimal

theorem radix?_of_letter {letter : Char} {bits : Nat} (isLetter : (letter, bits) ∈ radixLetters)
    (digits : List Char) : radix? ('0' :: letter :: digits) = some (2 ^ bits, digits) := by
  simp only [radixLetters, List.mem_cons, Prod.mk.injEq, List.not_mem_nil, or_false] at isLetter
  rcases isLetter with
    ⟨rfl, rfl⟩ | ⟨rfl, rfl⟩ | ⟨rfl, rfl⟩ | ⟨rfl, rfl⟩ | ⟨rfl, rfl⟩ | ⟨rfl, rfl⟩ <;> rfl

theorem radix?_of_digits {digits : List Char}
    (areDigits : ∀ character ∈ digits, isDecimalDigit character = true) : radix? digits = none := by
  unfold radix?
  split
  · next mark rest =>
      have isDigit := areDigits mark (by simp)
      rw [if_neg, if_neg, if_neg]
      · rintro (rfl | rfl) <;> cases isDigit
      · rintro (rfl | rfl) <;> cases isDigit
      · rintro (rfl | rfl) <;> cases isDigit
  · rfl

theorem takeSign_of_digits {digits : List Char}
    (areDigits : ∀ character ∈ digits, isDecimalDigit character = true) :
    takeSign digits = (false, digits) := by
  unfold takeSign
  split
  · next rest => cases areDigits '-' List.mem_cons_self
  · next rest => cases areDigits '+' List.mem_cons_self
  · rfl

theorem decimal?_of_digits {digits : List Char} (nonempty : digits ≠ [])
    (areDigits : ∀ character ∈ digits, isDecimalDigit character = true) :
    decimal? digits = some ⟨false, natOfDigits digits, 0⟩ := by
  have allTaken : digits.takeWhile isDecimalDigit = digits :=
    List.takeWhile_eq_self_iff.mpr areDigits
  have noneLeft : digits.dropWhile isDecimalDigit = [] := List.dropWhile_eq_nil_iff.mpr areDigits
  unfold decimal?
  rw [takeSign_of_digits areDigits]
  dsimp only
  rw [allTaken, noneLeft]
  dsimp only
  rw [if_neg fun bothEmpty => nonempty bothEmpty.1, List.append_nil]
  rfl

end Numeral

theorem trim_of_isVisible {text : List Char}
    (isVisible : ∀ character ∈ text, IsVisible character) : Text.trim text = text :=
  Text.trimBy_of_free fun character member => isBlank_of_isVisible (isVisible character member)

/-- A decimal text counts as the double nearest to its number. -/
theorem toNumber_of_decimal {text : String} {number : Nat}
    (spelled : SpellsNumber 10 number text.toList) :
    (Primitive.string text).toNumber = nearest number := by
  have trimmed := trim_of_isVisible (spelled.areDigits.isVisible (by decide))
  have areDecimal := spelled.areDigits.isDecimalDigit
  have noRadix := Numeral.radix?_of_digits areDecimal
  have isDecimal := Numeral.decimal?_of_digits spelled.ne_nil areDecimal
  rw [← trimmed] at noRadix isDecimal
  show Numeral.value text = nearest number
  rw [Numeral.value_of_decimal noRadix isDecimal, trimmed, spelled.natOfDigits_eq,
    ← floatOfInt_natCast, floatOfInt, Int.natAbs_natCast,
    decide_eq_false (Int.not_lt.mpr (Int.natCast_nonneg number))]

/-- A text with a radix mark counts as the double nearest to the kept part of its number. -/
theorem toNumber_of_marked {text : String} {bits number : Nat}
    (marked : SpellsMarked bits number text.toList) :
    (Primitive.string text).toNumber = nearest (keptPart bits number) := by
  show Numeral.value text = nearest (keptPart bits number)
  generalize isText : text.toList = characters at marked
  obtain ⟨isLetter, spelled⟩ := marked
  next letter digits =>
    obtain ⟨positive, few, letterVisible⟩ := radixLetters_range _ isLetter
    have fewDigits : 2 ^ bits ≤ 16 := Nat.pow_le_pow_right (by decide) few
    have visible : ∀ character ∈ '0' :: letter :: digits, IsVisible character :=
      List.forall_mem_cons.mpr ⟨by decide, List.forall_mem_cons.mpr
        ⟨letterVisible, spelled.areDigits.isVisible fewDigits⟩⟩
    have isRadix := Numeral.radix?_of_letter isLetter digits
    rw [← trim_of_isVisible visible, ← isText] at isRadix
    rw [Numeral.value_of_radix isRadix,
      radixValue_eq_nearest positive few spelled.ne_nil (spelled.natOfDigits?_eq fewDigits)]

/-- Decimal texts of a number have its double. Those with a radix mark have the double of the kept
part of the number, which is another double exactly when the lost digits break a tie. -/
theorem radix_text_agrees_iff {bits number : Nat} {marked decimal : String}
    (isMarked : SpellsMarked bits number marked.toList)
    (isDecimal : SpellsNumber 10 number decimal.toList) :
    (Primitive.string decimal).toNumber = floatOfInt number ∧
      (Primitive.string marked).toNumber = floatOfInt (keptPart bits number) ∧
        ((Primitive.string marked).toNumber = (Primitive.string decimal).toNumber ↔
          ¬ LosesTie bits number) := by
  rw [toNumber_of_decimal isDecimal, toNumber_of_marked isMarked, floatOfInt_natCast,
    floatOfInt_natCast]
  exact ⟨rfl, rfl, nearest_keptPart_eq_iff bits number⟩

/-- Zeros in front and the case of letters make no difference. -/
theorem mixed_case_text_agrees :
    SpellsMarked 4 511 "0X01fF".toList ∧ SpellsNumber 10 511 "511".toList ∧
      (Primitive.string "511").toNumber = floatOfInt 511 ∧
      (Primitive.string "0X01fF").toNumber = floatOfInt (keptPart 4 511) ∧
      ((Primitive.string "0X01fF").toNumber = (Primitive.string "511").toNumber ↔
        ¬ LosesTie 4 511) := by
  have decimal : SpellsNumber 10 511 "511".toList := SpellsNumber.toDigits (by decide) 511
  have hexadecimal : SpellsNumber (2 ^ 4) 511 "01fF".toList :=
    .append (.append (.append (@SpellsNumber.digit 16 0 '0' (by decide) (.inl rfl))
      (by decide : 1 < 16) (.inl rfl)) (by decide : 15 < 16) (.inl rfl))
      (by decide : 15 < 16) (.inr (by decide))
  have marked : SpellsMarked 4 511 "0X01fF".toList := .mk (by decide) hexadecimal
  exact ⟨marked, decimal, radix_text_agrees_iff marked decimal⟩

/-- The last digit of this number is lost, so that its first fifty-four bits look like a tie, and
the text with a radix mark is rounded down where the decimal text is rounded up. -/
theorem lost_digit_changes_double :
    SpellsMarked 4 144115188075855889 "0x200000000000011".toList ∧
      SpellsNumber 10 144115188075855889 "144115188075855889".toList ∧
      (Primitive.string "0x200000000000011").toNumber ≠
        (Primitive.string "144115188075855889").toNumber := by
  have decimal : SpellsNumber 10 144115188075855889 "144115188075855889".toList :=
    SpellsNumber.toDigits (by decide) 144115188075855889
  have hexadecimal : SpellsNumber (2 ^ 4) 144115188075855889 "200000000000011".toList :=
    SpellsNumber.toDigits (by decide) 144115188075855889
  have marked : SpellsMarked 4 144115188075855889 "0x200000000000011".toList :=
    .mk (by decide) hexadecimal
  refine ⟨marked, decimal, ?_⟩
  rw [toNumber_of_marked marked, toNumber_of_decimal decimal, Ne, nearest_keptPart_eq_iff, not_not]
  decide +kernel

end SyntaxQuery
