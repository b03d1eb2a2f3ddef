import SyntaxQuery.Proofs.Decimal.Grammar
import SyntaxQuery.Proofs.Decimal.Numbers

/-!
Contract: which attribute texts count as numbers.

Owns:
- that a text is "not a number" if and only if the text without its white space is not of the
  grammar of numeric texts;
- the two characters that the white space of scripts and the white space of this library differ by.

Does not own: the grammar, or which number a text counts as.
-/

namespace SyntaxQuery

/-! ## Which texts are numbers -/

theorem isNaN_of_isNumber {number : Float} (isNumber : IsNumber number.toModel.unpack) :
    number.isNaN = false := by
  show number.toModel.unpack.isNaN = false
  generalize number.toModel.unpack = unpacked at isNumber ⊢
  cases unpacked with
  | notANumber => exact isNumber.elim
  | _ => rfl

theorem isNumber_nearest (number : Nat) : IsNumber (nearest number).toModel.unpack := by
  have isNumber : IsNumber (doubleOf number) := by
    have isDouble := isDoubleOf_doubleOf number
    generalize doubleOf number = unpacked, roundedNat number = rounded at isDouble ⊢
    cases isDouble <;> trivial
  exact isNumber.unpack_pack

theorem isNaN_radixValue_iff {bits : Nat} {digits : List Char} (positive : 0 < bits)
    (few : bits ≤ 4) :
    (Numeral.radixValue (2 ^ bits) digits).isNaN = true ↔
      ¬ (digits ≠ [] ∧ AreDigits (2 ^ bits) digits) := by
  have fewDigits : 2 ^ bits ≤ 16 := Nat.pow_le_pow_right (by decide) few
  by_cases isEmpty : digits = []
  · have isNotANumber : Numeral.radixValue (2 ^ bits) digits = Decimal.notANumber :=
      if_pos isEmpty
    rw [isNotANumber]
    exact iff_of_true rfl fun both => both.1 isEmpty
  · rw [and_iff_right isEmpty, ← isSome_natOfDigits?_iff fewDigits]
    cases isNumber : natOfDigits? (2 ^ bits) digits with
    | none =>
        rw [radixValue_eq_radixSum isEmpty, radixSum_eq positive few, isNumber, Option.map_none,
          Option.getD_none]
        exact iff_of_true rfl Bool.false_ne_true
    | some number =>
        rw [radixValue_eq_nearest positive few isEmpty isNumber,
          isNaN_of_isNumber (isNumber_nearest _)]
        exact iff_of_false Bool.false_ne_true fun notSome => notSome rfl

/-- A text is not a number if what is left of it without white space is no numeric text. The cases
are those of the reader: it looks for a radix mark before it tries a decimal numeral. -/
theorem isNaN_value_iff (text : String) :
    (Numeral.value text).isNaN = true ↔ ¬ IsNumericText (Text.trim text.toList) := by
  unfold Numeral.value
  dsimp only
  generalize Text.trim text.toList = trimmed
  by_cases isEmpty : trimmed = []
  · rw [if_pos isEmpty, isEmpty]
    exact iff_of_false Bool.false_ne_true (not_not.mpr .empty)
  rw [if_neg isEmpty]
  by_cases isInfinity : trimmed = "Infinity".toList ∨ trimmed = "+Infinity".toList
  · rw [if_pos isInfinity]
    refine iff_of_false Bool.false_ne_true (not_not.mpr ?_)
    rcases isInfinity with rfl | rfl
    · exact .infinity .none
    · exact .infinity .plus
  rw [if_neg isInfinity]
  by_cases isNegative : trimmed = "-Infinity".toList
  · rw [if_pos isNegative, isNegative]
    exact iff_of_false Bool.false_ne_true (not_not.mpr (.infinity .minus))
  rw [if_neg isNegative]
  cases isRadix : Numeral.radix? trimmed with
  | some found =>
      obtain ⟨base, digits⟩ := found
      obtain ⟨letter, bits, isLetter, rfl, rfl⟩ := Numeral.exists_letter_of_radix? isRadix
      obtain ⟨positive, few, -⟩ := radixLetters_range _ isLetter
      rw [isNumericText_marked_iff isLetter]
      exact isNaN_radixValue_iff positive few
  | none =>
      rw [isNumericText_iff_of_no_radix isEmpty isInfinity isNegative isRadix]
      cases Numeral.decimal? trimmed with
      | none => exact iff_of_true rfl Bool.false_ne_true
      | some decimal =>
          rw [isNaN_of_isNumber decimal.isNumber_toFloat]
          exact iff_of_false Bool.false_ne_true fun notSome => notSome rfl

/-! ## White space -/

/-- A character is white space or ends a line in scripts: a tab, a form feed, the byte order mark,
a space separator of Unicode, a line feed, a carriage return, or a separator of lines or paragraphs.
-/
def isScriptBlank (character : Char) : Bool :=
  let code := character.toNat
  let isSpaceSeparator := code == 0x20 || code == 0xA0 || code == 0x1680 ||
    (0x2000 ≤ code && code ≤ 0x200A) || code == 0x202F || code == 0x205F || code == 0x3000
  let endsLine := code == 0x0A || code == 0x0D || code == 0x2028 || code == 0x2029
  code == 0x09 || code == 0x0B || code == 0x0C || code == 0xFEFF || isSpaceSeparator || endsLine

/-- A character is blank by one of the two classes at least. -/
def isEitherBlank (character : Char) : Bool :=
  Text.isBlank character || isScriptBlank character

theorem isEitherBlank_of_isVisible {character : Char} (isVisible : IsVisible character) :
    isEitherBlank character = false := by
  have notScriptBlank : isScriptBlank character = false := by
    unfold IsVisible at isVisible
    simp only [isScriptBlank, Bool.or_eq_false_iff, Bool.and_eq_false_iff,
      decide_eq_false_iff_not, beq_eq_false_iff_ne]
    omega
  rw [isEitherBlank, isBlank_of_isVisible isVisible, notScriptBlank]
  rfl

/-- The byte order mark is the only white space of scripts that is not blank here. -/
theorem isBlank_of_isEitherBlank_iff {text : List Char} :
    (∀ character ∈ text, isEitherBlank character = true → Text.isBlank character = true) ↔
      '\uFEFF' ∉ text := by
  constructor
  · intro onlyBlank isMark
    cases onlyBlank '\uFEFF' isMark rfl
  · intro noMark character member isEither
    have notMark : character.toNat ≠ '\uFEFF'.toNat := fun isMark =>
      noMark (Char.toNat_inj.mp isMark ▸ member)
    change character.toNat ≠ 0xFEFF at notMark
    rw [isEitherBlank, Bool.or_eq_true] at isEither
    rcases isEither with isBlank | isScript
    · exact isBlank
    · simp only [isScriptBlank, Text.isBlank, Bool.or_eq_true, Bool.and_eq_true, beq_iff_eq,
        decide_eq_true_eq] at isScript ⊢
      omega

/-- The control character for the next line is the only blank that is no white space of scripts. -/
theorem isScriptBlank_of_isEitherBlank_iff {text : List Char} :
    (∀ character ∈ text, isEitherBlank character = true → isScriptBlank character = true) ↔
      '\u0085' ∉ text := by
  constructor
  · intro onlyScript isNextLine
    cases onlyScript '\u0085' isNextLine rfl
  · intro noNextLine character member isEither
    have notNextLine : character.toNat ≠ '\u0085'.toNat := fun isNextLine =>
      noNextLine (Char.toNat_inj.mp isNextLine ▸ member)
    change character.toNat ≠ 0x85 at notNextLine
    rw [isEitherBlank, Bool.or_eq_true] at isEither
    rcases isEither with isBlank | isScript
    · simp only [isScriptBlank, Text.isBlank, Bool.or_eq_true, Bool.and_eq_true, beq_iff_eq,
        decide_eq_true_eq] at isBlank ⊢
      omega
    · exact isScript

theorem isNumericText_trim_iff (text : List Char) :
    IsNumericText (Text.trim text) ↔
      IsNumericText (Text.trimBy isEitherBlank text) ∧ '\uFEFF' ∉ text := by
  rw [Text.trim_eq_trimBy, ← isBlank_of_isEitherBlank_iff]
  exact Text.holds_trimBy_iff (fun character isBlank => by rw [isEitherBlank, isBlank]; rfl)
    (fun _ isNumeric character member => isEitherBlank_of_isVisible (isNumeric.isVisible _ member))
    text

theorem isNumericText_trimBy_iff (text : List Char) :
    IsNumericText (Text.trimBy isScriptBlank text) ↔
      IsNumericText (Text.trimBy isEitherBlank text) ∧ '\u0085' ∉ text := by
  rw [← isScriptBlank_of_isEitherBlank_iff]
  exact Text.holds_trimBy_iff
    (fun character isScript => by rw [isEitherBlank, isScript, Bool.or_true])
    (fun _ isNumeric character member => isEitherBlank_of_isVisible (isNumeric.isVisible _ member))
    text

/-- A text counts as "not a number" if and only if it is no numeric text without its white space.
The rule with the white space of scripts gives the same answer, except for numeric texts with the
byte order mark or the next-line control around them, but not both. -/
theorem isNaN_toNumber_iff (text : String) :
    ((Primitive.string text).toNumber.isNaN = true ↔
        ¬ IsNumericText (Text.trimBy Text.isBlank text.toList)) ∧
      (((Primitive.string text).toNumber.isNaN = true ↔
          ¬ IsNumericText (Text.trimBy isScriptBlank text.toList)) ↔
        ¬ (IsNumericText (Text.trimBy isEitherBlank text.toList) ∧
          ('\uFEFF' ∈ text.toList ↔ '\u0085' ∉ text.toList))) := by
  have isNaN : (Primitive.string text).toNumber.isNaN = true ↔
      ¬ IsNumericText (Text.trim text.toList) := isNaN_value_iff text
  refine ⟨isNaN, ?_⟩
  rw [isNaN, isNumericText_trim_iff, isNumericText_trimBy_iff]
  by_cases isNumeric : IsNumericText (Text.trimBy isEitherBlank text.toList)
  · rw [and_iff_right isNumeric, and_iff_right isNumeric, and_iff_right isNumeric, not_not, not_not,
      not_iff, not_iff_not]
  · exact iff_of_true (iff_of_true (fun both => isNumeric both.1) fun both => isNumeric both.1)
      fun both => isNumeric both.1

/-- The byte order mark before a digit makes the text no number, and the next-line control does not,
where scripts decide the other way. -/
theorem mark_before_digit_is_not_trimmed :
    ((Primitive.string "\uFEFF1").toNumber.isNaN = true ∧
        IsNumericText (Text.trimBy isScriptBlank "\uFEFF1".toList)) ∧
      ((Primitive.string "\u00851").toNumber.isNaN = false ∧
        ¬ IsNumericText (Text.trimBy isScriptBlank "\u00851".toList)) := by
  have isDigit : IsMantissa ['1'] :=
    .whole (List.cons_ne_nil _ _) (areDigits_ten_iff.mpr (List.forall_mem_singleton.mpr rfl))
  have isOne : IsNumericText ([] ++ ['1'] ++ []) := .decimal .none isDigit .none
  have trimmedMark : Text.trimBy isScriptBlank "\uFEFF1".toList = ['1'] := by decide
  have keptNextLine : Text.trimBy isScriptBlank "\u00851".toList = ['\u0085', '1'] := by decide
  rw [trimmedMark, keptNextLine]
  refine ⟨⟨by decide +kernel, isOne⟩, by decide +kernel, fun isNumeric => ?_⟩
  exact absurd (isNumeric.isVisible '\u0085' List.mem_cons_self) (by decide)

end SyntaxQuery
