import SyntaxQuery.Proofs.Decimal.Spellings

/-!
Contract: the grammar of numeric texts and the readers of numerals.

Owns:
- the grammar of texts that name infinity or are radix numerals or decimal numerals, digit by digit;
- that the reader of decimal numerals and the reader of radix marks accept the numerals of the
  grammar and nothing else;
- that no character of a numeric text is white space.

Does not own: the number that a numeral stands for, or white space around it.
-/

namespace SyntaxQuery

/-! ## The grammar -/

/-- One sign at most. -/
inductive IsSign : List Char → Prop
  | none : IsSign []
  | plus : IsSign ['+']
  | minus : IsSign ['-']

/-- Decimal digits with an optional fraction, or a fraction alone. -/
inductive IsMantissa : List Char → Prop
  | whole {digits : List Char} (nonempty : digits ≠ []) (areDigits : AreDigits 10 digits) :
      IsMantissa digits
  | fraction {digits fraction : List Char} (nonempty : digits ≠ [])
      (areDigits : AreDigits 10 digits) (areFraction : AreDigits 10 fraction) :
      IsMantissa (digits ++ '.' :: fraction)
  | fractionAlone {fraction : List Char} (nonempty : fraction ≠ [])
      (areFraction : AreDigits 10 fraction) : IsMantissa ('.' :: fraction)

/-- An exponent, or nothing. -/
inductive IsExponent : List Char → Prop
  | none : IsExponent []
  | some {mark : Char} {sign digits : List Char} (isMark : mark = 'e' ∨ mark = 'E')
      (isSign : IsSign sign) (nonempty : digits ≠ []) (areDigits : AreDigits 10 digits) :
      IsExponent (mark :: (sign ++ digits))

/-- What a numeric text is without its white space: nothing, infinity spelled out, a radix mark with
digits, or a decimal numeral. -/
inductive IsNumericText : List Char → Prop
  | empty : IsNumericText []
  | infinity {sign : List Char} (isSign : IsSign sign) : IsNumericText (sign ++ "Infinity".toList)
  | marked {letter : Char} {bits : Nat} {digits : List Char}
      (isLetter : (letter, bits) ∈ radixLetters) (nonempty : digits ≠ [])
      (areDigits : AreDigits (2 ^ bits) digits) : IsNumericText ('0' :: letter :: digits)
  | decimal {sign mantissa exponent : List Char} (isSign : IsSign sign)
      (isMantissa : IsMantissa mantissa) (isExponent : IsExponent exponent) :
      IsNumericText (sign ++ mantissa ++ exponent)

/-! ## Digits -/

theorem toNat_le_of_le {first second : Char} (atMost : first ≤ second) :
    first.toNat ≤ second.toNat :=
  UInt32.le_iff_toNat_le.mp atMost

theorem isDecimalDigit_iff {character : Char} :
    isDecimalDigit character = true ↔ '0' ≤ character ∧ character ≤ '9' := by
  rw [isDecimalDigit, Bool.and_eq_true, decide_eq_true_eq, decide_eq_true_eq]

/-- A character that is read as a digit is the digit of the value that is read. -/
theorem isDigit_of_digitOf? {base value : Nat} {character : Char} (few : base ≤ 16)
    (isDigit : digitOf? base character = some value) : IsDigit value character := by
  have lowerCodes : ∀ value < 16, (Nat.digitChar value).toNat =
      if value < 10 then value + '0'.toNat else value - 10 + 'a'.toNat := by decide
  have upperCodes : ∀ value < 16, (Nat.digitChar value).toUpper.toNat =
      if value < 10 then value + '0'.toNat else value - 10 + 'A'.toNat := by decide
  obtain ⟨isValue, isSmall⟩ := Option.filter_eq_some_iff.mp isDigit
  have small : value < 16 := Nat.lt_of_lt_of_le (of_decide_eq_true isSmall) few
  rw [IsDigit, ← Char.toNat_inj, ← Char.toNat_inj, lowerCodes value small, upperCodes value small]
  split at isValue
  · next isDecimal =>
      obtain ⟨zeroLe, leNine⟩ := isDecimalDigit_iff.mp isDecimal
      have least := toNat_le_of_le zeroLe
      have most : character.toNat ≤ '0'.toNat + 9 := toNat_le_of_le leNine
      have isDistance : character.toNat - '0'.toNat = value := Option.some.inj isValue
      left
      rw [if_pos (by omega)]
      omega
  · split at isValue
    · next isLower =>
        have least := toNat_le_of_le isLower.1
        have isDistance : character.toNat - 'a'.toNat + 10 = value := Option.some.inj isValue
        left
        rw [if_neg (by omega)]
        omega
    · split at isValue
      · next isUpper =>
          have least := toNat_le_of_le isUpper.1
          have isDistance : character.toNat - 'A'.toNat + 10 = value := Option.some.inj isValue
          right
          rw [if_neg (by omega)]
          omega
      · cases isValue

theorem isSome_digitOf?_iff {base : Nat} {character : Char} (few : base ≤ 16) :
    (digitOf? base character).isSome = true ↔ ∃ value < base, IsDigit value character := by
  constructor
  · intro isSome
    obtain ⟨value, isValue⟩ := Option.isSome_iff_exists.mp isSome
    exact ⟨value, digit_lt_of_digitOf? isValue, isDigit_of_digitOf? few isValue⟩
  · rintro ⟨value, small, isDigit⟩
    rw [digitOf?_of_isDigit small few isDigit]
    rfl

theorem isSome_natOfDigits?_iff {base : Nat} {digits : List Char} (few : base ≤ 16) :
    (natOfDigits? base digits).isSome = true ↔ AreDigits base digits := by
  induction digits using List.reverseRecOn with
  | nil => exact iff_of_true rfl fun _ member => nomatch member
  | append_singleton digits character inductionHypothesis =>
      rw [natOfDigits?_concat, AreDigits, List.forall_mem_append, List.forall_mem_singleton,
        ← isSome_digitOf?_iff few, ← AreDigits, ← inductionHypothesis]
      cases natOfDigits? base digits <;> cases digitOf? base character <;> simp

theorem areDigits_ten_iff {digits : List Char} :
    AreDigits 10 digits ↔ ∀ character ∈ digits, isDecimalDigit character = true := by
  refine ⟨AreDigits.isDecimalDigit, fun areDecimal character member => ?_⟩
  rw [← isSome_digitOf?_iff (by decide), digitOf?_ten (areDecimal character member)]
  rfl

/-- Digits are taken up to the first character that is none. -/
theorem span_of_digits {digits rest : List Char} (areDigits : AreDigits 10 digits)
    (ends : ∀ character ∈ rest.head?, isDecimalDigit character = false) :
    (digits ++ rest).takeWhile isDecimalDigit = digits ∧
      (digits ++ rest).dropWhile isDecimalDigit = rest := by
  rw [List.takeWhile_append_of_pos areDigits.isDecimalDigit,
    List.dropWhile_append_of_pos areDigits.isDecimalDigit]
  cases rest with
  | nil => exact ⟨List.append_nil digits, rfl⟩
  | cons first rest =>
      have notDigit := ends first rfl
      rw [List.takeWhile_cons_of_neg (by rw [notDigit]; exact Bool.false_ne_true),
        List.dropWhile_cons_of_neg (by rw [notDigit]; exact Bool.false_ne_true), List.append_nil]
      exact ⟨rfl, rfl⟩

/-! ## Decimal numerals -/

namespace Numeral

theorem exists_sign (text : List Char) :
    ∃ sign, IsSign sign ∧ text = sign ++ (takeSign text).2 := by
  unfold takeSign
  split
  · exact ⟨_, .minus, rfl⟩
  · exact ⟨_, .plus, rfl⟩
  · exact ⟨_, .none, rfl⟩

theorem takeSign_append {sign rest : List Char} (isSign : IsSign sign)
    (noSign : ∀ character ∈ rest.head?, character ≠ '+' ∧ character ≠ '-') :
    (takeSign (sign ++ rest)).2 = rest := by
  cases isSign with
  | plus => rfl
  | minus => rfl
  | none =>
      rw [List.nil_append]
      unfold takeSign
      split
      · exact absurd rfl (noSign '-' rfl).2
      · exact absurd rfl (noSign '+' rfl).1
      · rfl

theorem noSign_of_areDigits {digits : List Char} (areDigits : AreDigits 10 digits)
    (nonempty : digits ≠ []) (rest : List Char) :
    ∀ character ∈ (digits ++ rest).head?, character ≠ '+' ∧ character ≠ '-' := by
  intro character isFirst
  obtain ⟨first, others, rfl⟩ := List.exists_cons_of_ne_nil nonempty
  cases isFirst
  have isDigit := areDigits.isDecimalDigit character List.mem_cons_self
  constructor <;> rintro rfl <;> cases isDigit

theorem isSome_exponent?_iff {text : List Char} :
    (exponent? text).isSome = true ↔ IsExponent text := by
  constructor
  · intro isSome
    cases text with
    | nil => exact .none
    | cons mark rest =>
        obtain ⟨sign, isSign, isRest⟩ := exists_sign rest
        rw [exponent?] at isSome
        split at isSome
        · next isMark =>
            dsimp only at isSome
            split at isSome
            · next areDigits =>
                rw [isRest]
                exact .some isMark isSign areDigits.1
                  (areDigits_ten_iff.mpr (List.all_eq_true.mp areDigits.2))
            · cases isSome
        · cases isSome
  · intro isExponent
    cases isExponent with
    | none => rfl
    | @some mark sign digits isMark isSign nonempty areDigits =>
        have unsigned := takeSign_append isSign (noSign_of_areDigits areDigits nonempty [])
        have allDigits := List.all_eq_true.mpr areDigits.isDecimalDigit
        rw [exponent?, if_pos isMark]
        dsimp only
        rw [List.append_nil] at unsigned
        rw [unsigned, if_pos ⟨nonempty, allDigits⟩]
        rfl

theorem isSome_decimal?_of_point {text whole rest : List Char}
    (isWhole : (takeSign text).2.takeWhile isDecimalDigit = whole)
    (isRest : (takeSign text).2.dropWhile isDecimalDigit = '.' :: rest) :
    (decimal? text).isSome = true ↔ ¬ (whole = [] ∧ rest.takeWhile isDecimalDigit = []) ∧
      (exponent? (rest.dropWhile isDecimalDigit)).isSome = true := by
  unfold decimal?
  dsimp only
  rw [isWhole, isRest]
  show (if whole = [] ∧ rest.takeWhile isDecimalDigit = [] then none
    else (exponent? (rest.dropWhile isDecimalDigit)).map _).isSome = true ↔ _
  by_cases noDigits : whole = [] ∧ rest.takeWhile isDecimalDigit = []
  · rw [if_pos noDigits]
    exact iff_of_false Bool.false_ne_true fun both => both.1 noDigits
  · rw [if_neg noDigits, Option.isSome_map]
    exact (and_iff_right noDigits).symm

theorem isSome_decimal?_of_no_point {text whole rest : List Char}
    (isWhole : (takeSign text).2.takeWhile isDecimalDigit = whole)
    (isRest : (takeSign text).2.dropWhile isDecimalDigit = rest)
    (noPoint : '.' ∉ rest.head?) :
    (decimal? text).isSome = true ↔ whole ≠ [] ∧ (exponent? rest).isSome = true := by
  unfold decimal?
  dsimp only
  rw [isWhole, isRest]
  split
  · next afterPoint => exact absurd rfl noPoint
  · dsimp only
    by_cases noDigits : whole = []
    · rw [if_pos ⟨noDigits, rfl⟩]
      exact iff_of_false Bool.false_ne_true fun both => both.1 noDigits
    · rw [if_neg fun both => noDigits both.1, Option.isSome_map]
      exact (and_iff_right noDigits).symm

theorem exponent_head {exponent : List Char} (isExponent : IsExponent exponent) :
    ∀ character ∈ exponent.head?, character = 'e' ∨ character = 'E' := by
  intro character isFirst
  cases isExponent with
  | none => cases isFirst
  | some isMark => exact Option.some.inj isFirst ▸ isMark

/-- What is read as a decimal numeral has the parts of one. -/
theorem exists_parts_of_decimal? {text : List Char} (isSome : (decimal? text).isSome = true) :
    ∃ sign mantissa exponent, IsSign sign ∧ IsMantissa mantissa ∧ IsExponent exponent ∧
      text = sign ++ mantissa ++ exponent := by
  obtain ⟨sign, isSign, isText⟩ := exists_sign text
  have areWhole : AreDigits 10 ((takeSign text).2.takeWhile isDecimalDigit) :=
    areDigits_ten_iff.mpr fun character => List.mem_takeWhile_imp
  have parts := List.takeWhile_append_dropWhile (p := isDecimalDigit) (l := (takeSign text).2)
  generalize isWhole : (takeSign text).2.takeWhile isDecimalDigit = whole at areWhole parts
  generalize isRest : (takeSign text).2.dropWhile isDecimalDigit = rest at parts
  rw [← parts] at isText
  by_cases isPoint : '.' ∈ rest.head?
  · obtain ⟨behind, rfl⟩ := List.head?_eq_some_iff.mp isPoint
    obtain ⟨digits, hasExponent⟩ := (isSome_decimal?_of_point isWhole isRest).mp isSome
    have areFraction : AreDigits 10 (behind.takeWhile isDecimalDigit) :=
      areDigits_ten_iff.mpr fun character => List.mem_takeWhile_imp
    have behindParts := List.takeWhile_append_dropWhile (p := isDecimalDigit) (l := behind)
    refine ⟨sign, whole ++ '.' :: behind.takeWhile isDecimalDigit,
      behind.dropWhile isDecimalDigit, isSign, ?_, isSome_exponent?_iff.mp hasExponent, ?_⟩
    · by_cases noWhole : whole = []
      · rw [noWhole]
        exact .fractionAlone (fun noFraction => digits ⟨noWhole, noFraction⟩) areFraction
      · exact .fraction noWhole areWhole areFraction
    · rw [isText, List.append_assoc, List.append_assoc, List.cons_append, behindParts]
  · obtain ⟨nonempty, hasExponent⟩ := (isSome_decimal?_of_no_point isWhole isRest isPoint).mp isSome
    exact ⟨sign, whole, rest, isSign, .whole nonempty areWhole,
      isSome_exponent?_iff.mp hasExponent, by rw [isText, List.append_assoc]⟩

/-- The parts of a decimal numeral are read, since each of them ends where the next one begins. -/
theorem isSome_decimal?_of_parts {sign mantissa exponent : List Char} (isSign : IsSign sign)
    (isMantissa : IsMantissa mantissa) (isExponent : IsExponent exponent) :
    (decimal? (sign ++ mantissa ++ exponent)).isSome = true := by
  have hasExponent := isSome_exponent?_iff.mpr isExponent
  have ends : ∀ character ∈ exponent.head?, isDecimalDigit character = false := by
    intro character isFirst
    rcases exponent_head isExponent character isFirst with rfl | rfl <;> rfl
  rw [List.append_assoc]
  cases isMantissa with
  | whole nonempty areDigits =>
      have unsigned := takeSign_append isSign (noSign_of_areDigits areDigits nonempty exponent)
      have noPoint : '.' ∉ exponent.head? := fun isFirst =>
        (exponent_head isExponent '.' isFirst).elim (by decide) (by decide)
      obtain ⟨isWhole, isRest⟩ := span_of_digits areDigits ends
      rw [← unsigned] at isWhole isRest
      exact (isSome_decimal?_of_no_point isWhole isRest noPoint).mpr ⟨nonempty, hasExponent⟩
  | @fraction digits fraction nonempty areDigits areFraction =>
      have unsigned := takeSign_append isSign
        (noSign_of_areDigits areDigits nonempty ('.' :: (fraction ++ exponent)))
      have endsAtPoint : ∀ character ∈ ('.' :: (fraction ++ exponent)).head?,
          isDecimalDigit character = false := by
        intro character isPoint
        cases isPoint
        rfl
      obtain ⟨isWhole, isRest⟩ := span_of_digits areDigits endsAtPoint
      obtain ⟨isFraction, isExponentPart⟩ := span_of_digits areFraction ends
      rw [← unsigned] at isWhole isRest
      rw [List.append_assoc digits, List.cons_append, isSome_decimal?_of_point isWhole isRest,
        isExponentPart]
      exact ⟨fun noDigits => nonempty noDigits.1, hasExponent⟩
  | @fractionAlone fraction nonempty areFraction =>
      have noSign : ∀ character ∈ ('.' :: (fraction ++ exponent)).head?,
          character ≠ '+' ∧ character ≠ '-' := by
        intro character isPoint
        cases isPoint
        decide
      have unsigned := takeSign_append isSign noSign
      obtain ⟨isFraction, isExponentPart⟩ := span_of_digits areFraction ends
      rw [List.cons_append, isSome_decimal?_of_point (congrArg _ unsigned) (congrArg _ unsigned),
        isFraction, isExponentPart]
      exact ⟨fun noDigits => nonempty noDigits.2, hasExponent⟩

/-! ## Radix numerals -/

theorem exists_letter_of_radix? {text digits : List Char} {base : Nat}
    (isRadix : radix? text = some (base, digits)) :
    ∃ letter bits, (letter, bits) ∈ radixLetters ∧ base = 2 ^ bits ∧
      text = '0' :: letter :: digits := by
  unfold radix? at isRadix
  split at isRadix
  · next mark rest =>
      split at isRadix
      · next isMark =>
          cases isRadix
          exact ⟨mark, 4, by rcases isMark with rfl | rfl <;> decide, rfl, rfl⟩
      · split at isRadix
        · next isMark =>
            cases isRadix
            exact ⟨mark, 3, by rcases isMark with rfl | rfl <;> decide, rfl, rfl⟩
        · split at isRadix
          · next isMark =>
              cases isRadix
              exact ⟨mark, 1, by rcases isMark with rfl | rfl <;> decide, rfl, rfl⟩
          · cases isRadix
  · cases isRadix

/-- No decimal numeral has a radix mark. -/
theorem decimal?_of_letter {letter : Char} {bits : Nat} (isLetter : (letter, bits) ∈ radixLetters)
    (digits : List Char) : decimal? ('0' :: letter :: digits) = none := by
  simp only [radixLetters, List.mem_cons, Prod.mk.injEq, List.not_mem_nil, or_false] at isLetter
  rcases isLetter with
    ⟨rfl, rfl⟩ | ⟨rfl, rfl⟩ | ⟨rfl, rfl⟩ | ⟨rfl, rfl⟩ | ⟨rfl, rfl⟩ | ⟨rfl, rfl⟩ <;> rfl

end Numeral

/-! ## Numeric texts -/

section Grammar

open Numeral

theorem isNumericText_marked_iff {letter : Char} {bits : Nat} {digits : List Char}
    (isLetter : (letter, bits) ∈ radixLetters) :
    IsNumericText ('0' :: letter :: digits) ↔ digits ≠ [] ∧ AreDigits (2 ^ bits) digits := by
  constructor
  · intro isNumeric
    generalize isText : '0' :: letter :: digits = text at isNumeric
    cases isNumeric with
    | empty => cases isText
    | infinity isSign => cases isSign <;> cases isText
    | @marked other otherBits otherDigits isOther nonempty areDigits =>
        cases isText
        have same := (radix?_of_letter isLetter digits).symm.trans (radix?_of_letter isOther digits)
        rw [Option.some.injEq, Prod.mk.injEq] at same
        rw [same.1]
        exact ⟨nonempty, areDigits⟩
    | decimal isSign isMantissa isExponent =>
        have isSome := isSome_decimal?_of_parts isSign isMantissa isExponent
        rw [← isText, decimal?_of_letter isLetter] at isSome
        cases isSome
  · rintro ⟨nonempty, areDigits⟩
    exact .marked isLetter nonempty areDigits

theorem isNumericText_iff_of_no_radix {text : List Char} (nonempty : text ≠ [])
    (notInfinity : ¬ (text = "Infinity".toList ∨ text = "+Infinity".toList))
    (notNegative : text ≠ "-Infinity".toList) (noRadix : radix? text = none) :
    IsNumericText text ↔ (decimal? text).isSome = true := by
  constructor
  · intro isNumeric
    cases isNumeric with
    | empty => exact absurd rfl nonempty
    | infinity isSign =>
        cases isSign with
        | none => exact absurd (.inl rfl) notInfinity
        | plus => exact absurd (.inr rfl) notInfinity
        | minus => exact absurd rfl notNegative
    | marked isLetter =>
        rw [radix?_of_letter isLetter] at noRadix
        cases noRadix
    | decimal isSign isMantissa isExponent =>
        exact isSome_decimal?_of_parts isSign isMantissa isExponent
  · intro isSome
    obtain ⟨sign, mantissa, exponent, isSign, isMantissa, isExponent, rfl⟩ :=
      exists_parts_of_decimal? isSome
    exact .decimal isSign isMantissa isExponent

end Grammar

theorem IsSign.isVisible {sign : List Char} (isSign : IsSign sign) :
    ∀ character ∈ sign, IsVisible character := by
  cases isSign with
  | none => exact fun _ member => nomatch member
  | plus => exact List.forall_mem_singleton.mpr (by decide)
  | minus => exact List.forall_mem_singleton.mpr (by decide)

theorem IsMantissa.isVisible {mantissa : List Char} (isMantissa : IsMantissa mantissa) :
    ∀ character ∈ mantissa, IsVisible character := by
  cases isMantissa with
  | whole nonempty areDigits => exact areDigits.isVisible (by decide)
  | fraction nonempty areDigits areFraction =>
      exact List.forall_mem_append.mpr ⟨areDigits.isVisible (by decide),
        List.forall_mem_cons.mpr ⟨by decide, areFraction.isVisible (by decide)⟩⟩
  | fractionAlone nonempty areFraction =>
      exact List.forall_mem_cons.mpr ⟨by decide, areFraction.isVisible (by decide)⟩

theorem IsExponent.isVisible {exponent : List Char} (isExponent : IsExponent exponent) :
    ∀ character ∈ exponent, IsVisible character := by
  cases isExponent with
  | none => exact fun _ member => nomatch member
  | some isMark isSign nonempty areDigits =>
      refine List.forall_mem_cons.mpr ⟨?_, List.forall_mem_append.mpr
        ⟨isSign.isVisible, areDigits.isVisible (by decide)⟩⟩
      rcases isMark with rfl | rfl <;> decide

theorem IsNumericText.isVisible {text : List Char} (isNumeric : IsNumericText text) :
    ∀ character ∈ text, IsVisible character := by
  cases isNumeric with
  | empty => exact fun _ member => nomatch member
  | infinity isSign =>
      have allVisible : "Infinity".toList.all (fun character => IsVisible character) = true := by
        decide
      exact List.forall_mem_append.mpr ⟨isSign.isVisible, fun character member =>
        of_decide_eq_true (List.all_eq_true.mp allVisible character member)⟩
  | marked isLetter nonempty areDigits =>
      obtain ⟨-, few, letterVisible⟩ := radixLetters_range _ isLetter
      exact List.forall_mem_cons.mpr ⟨by decide, List.forall_mem_cons.mpr
        ⟨letterVisible, areDigits.isVisible (Nat.pow_le_pow_right (by decide) few)⟩⟩
  | decimal isSign isMantissa isExponent =>
      exact List.forall_mem_append.mpr ⟨List.forall_mem_append.mpr
        ⟨isSign.isVisible, isMantissa.isVisible⟩, isExponent.isVisible⟩

end SyntaxQuery
