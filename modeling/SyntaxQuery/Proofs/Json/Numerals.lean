import Mathlib.Data.List.TakeWhile
import Mathlib.Data.Nat.Digits.Defs
import SyntaxQuery.Json.Token
import SyntaxQuery.Proofs.Decimal.Digits

/-!
Contract: the characters of JSON numerals, and numbers that are read back from their text.

A text that spells a number begins with a digit or a minus sign and has no characters but those of
numerals. Natural numbers in the range of integers are read back from their digits.

Does not own: which decimal is written for a double.
-/

namespace SyntaxQuery.Json

theorem isNumeralChar_of_isDecimalDigit {character : Char}
    (isDigit : isDecimalDigit character = true) : isNumeralChar character = true := by
  simp [isNumeralChar, isDigit]

/-- All characters of the text may stand in a numeral. -/
def NumeralChars (text : List Char) : Prop :=
  ∀ character ∈ text, isNumeralChar character = true

theorem numeralChars_cons {character : Char} {text : List Char} :
    NumeralChars (character :: text) ↔ isNumeralChar character = true ∧ NumeralChars text :=
  List.forall_mem_cons

theorem numeralChars_append {before after : List Char} :
    NumeralChars (before ++ after) ↔ NumeralChars before ∧ NumeralChars after :=
  List.forall_mem_append

theorem numeralChars_of_digits {digits : List Char} (allDigits : digits.all isDecimalDigit = true) :
    NumeralChars digits := by
  intro character isDigit
  exact isNumeralChar_of_isDecimalDigit (List.all_eq_true.mp allDigits character isDigit)

/-- A run of digits at the front of numeral characters. -/
theorem numeralChars_of_dropWhile {text : List Char}
    (rest : NumeralChars (text.dropWhile isDecimalDigit)) : NumeralChars text := by
  rw [← List.takeWhile_append_dropWhile (p := isDecimalDigit) (l := text), numeralChars_append]
  exact ⟨numeralChars_of_digits List.all_takeWhile, rest⟩

theorem numeralChars_of_exponentPart? {text : List Char} {exponent : Int}
    (found : exponentPart? text = some exponent) : NumeralChars text := by
  unfold exponentPart? at found
  split at found
  · next digits =>
      obtain ⟨allDigits, _⟩ := Option.ite_none_right_eq_some.mp found
      exact numeralChars_cons.mpr ⟨rfl, numeralChars_of_digits allDigits.2⟩
  · next digits =>
      obtain ⟨allDigits, _⟩ := Option.ite_none_right_eq_some.mp found
      exact numeralChars_cons.mpr ⟨rfl, numeralChars_of_digits allDigits.2⟩
  · obtain ⟨allDigits, _⟩ := Option.ite_none_right_eq_some.mp found
    exact numeralChars_of_digits allDigits.2

theorem integerRange_iff {value : Int} :
    integerRange value = true ↔ -2 ^ 63 ≤ value ∧ value < 2 ^ 64 := by
  rw [integerRange, Bool.and_eq_true, decide_eq_true_eq, decide_eq_true_eq]
  rfl

/-- The number of an accepted numeral: an integer in range, or a double that is not infinite. -/
def Number.OfNumeral (number : Number) : Prop :=
  (∃ value, integerRange value = true ∧ number = .integer value) ∨
    ∃ decimal, finiteNumber? decimal = some number

/-- A text that spells a number is one or more numeral characters, of which the first may begin a
numeral. -/
theorem chars_and_number_of_numeral? {text : List Char} {number : Number}
    (found : numeral? text = some number) :
    (∃ first rest, text = first :: rest ∧ (isDecimalDigit first = true ∨ first = '-') ∧
      NumeralChars rest) ∧ number.OfNumeral := by
  unfold numeral? at found
  split at found
  next negative unsigned signed =>
  obtain ⟨isWhole, found⟩ := Option.ite_none_left_eq_some.mp found
  split at found
  next fraction? afterFraction pointed =>
  obtain ⟨_, found⟩ := Option.ite_none_left_eq_some.mp found
  have ⟨afterChars, ofNumeral⟩ : NumeralChars afterFraction ∧ number.OfNumeral := by
    cases afterFraction with
    | nil =>
        refine ⟨fun _ member => absurd member List.not_mem_nil, ?_⟩
        dsimp only at found
        generalize (if negative = true then _ else _ : Int) = value at found
        split at found
        · next inRange =>
            cases found
            exact .inl ⟨value, inRange.2.1, rfl⟩
        · exact .inr ⟨_, found⟩
    | cons mark digits =>
        obtain ⟨isMark, found⟩ := Option.ite_none_right_eq_some.mp found
        obtain ⟨exponent, exponentFound, found⟩ := Option.bind_eq_some_iff.mp found
        refine ⟨numeralChars_cons.mpr ⟨?_, numeralChars_of_exponentPart? exponentFound⟩,
          .inr ⟨_, found⟩⟩
        rcases isMark with rfl | rfl <;> rfl
  refine ⟨?_, ofNumeral⟩
  have unsignedChars : NumeralChars unsigned := by
    apply numeralChars_of_dropWhile
    split at pointed
    · next rest isPoint =>
        cases pointed
        rw [isPoint]
        exact numeralChars_cons.mpr ⟨rfl, numeralChars_of_dropWhile afterChars⟩
    · cases pointed
      exact afterChars
  -- The whole part has a digit, so the numeral begins with it if there is no sign.
  obtain ⟨first, rest, isUnsigned, isDigit⟩ : ∃ first rest, unsigned = first :: rest ∧
      isDecimalDigit first = true := by
    cases unsigned with
    | nil => exact absurd rfl isWhole
    | cons first rest =>
        refine ⟨first, rest, rfl, ?_⟩
        by_contra notDigit
        rw [List.takeWhile_cons_of_neg notDigit] at isWhole
        exact isWhole rfl
  split at signed
  · cases signed
    exact ⟨_, _, rfl, .inr rfl, unsignedChars⟩
  · cases signed
    rw [isUnsigned] at unsignedChars ⊢
    exact ⟨first, rest, rfl, .inl isDigit, (numeralChars_cons.mp unsignedChars).2⟩

/-! ## Natural numbers -/

/-- Only zero is written with a zero in front. -/
theorem toDigits_first {value : Nat} (positive : value ≠ 0) :
    ∃ first rest, Nat.toDigits 10 value = first :: rest ∧ first ≠ '0' := by
  by_cases small : value < 10
  · refine ⟨value.digitChar, [], Nat.toDigits_of_lt_base small, ?_⟩
    simpa using positive
  · obtain ⟨first, rest, isFirst, notZero⟩ : ∃ first rest,
        Nat.toDigits 10 (value / 10) = first :: rest ∧ first ≠ '0' :=
      toDigits_first (by omega)
    rw [Nat.toDigits_of_base_le (by decide) (by omega), isFirst]
    exact ⟨first, _, rfl, notZero⟩
termination_by value

theorem wholeDigits_toDigits (value : Nat) : wholeDigits (Nat.toDigits 10 value) = true := by
  by_cases isZero : value = 0
  · rw [isZero]
    rfl
  · obtain ⟨first, rest, isFirst, notZero⟩ := toDigits_first isZero
    rw [isFirst]
    simp [wholeDigits, notZero]

/-- The number is read back from its text. -/
def Number.ReadsBack (number : Number) : Prop :=
  numeral? number.text = some number

theorem readsBack_ofNat {value : Nat} (inRange : value < 2 ^ 64) :
    (Number.integer (Int.ofNat value)).ReadsBack := by
  have allDigits : ∀ character ∈ Nat.toDigits 10 value, isDecimalDigit character = true :=
    fun _ => isDecimalDigit_of_mem_toDigits
  obtain ⟨first, rest, isFirst⟩ := List.exists_cons_of_ne_nil (@Nat.toDigits_ne_nil value 10)
  have notSign : first ≠ '-' := by
    rintro rfl
    have isDigit := allDigits '-' (by rw [isFirst]; exact List.mem_cons_self)
    cases isDigit
  show numeral? (Nat.repr value).toList = _
  rw [Nat.toList_repr]
  unfold numeral?
  split
  next negative unsigned signed =>
  obtain ⟨rfl, rfl⟩ : negative = false ∧ unsigned = Nat.toDigits 10 value := by
    split at signed
    · next rest minus =>
        rw [isFirst] at minus
        exact absurd (List.cons.inj minus).1 notSign
    · cases signed
      exact ⟨rfl, rfl⟩
  rw [List.takeWhile_eq_self_iff.mpr allDigits, List.dropWhile_eq_nil_iff.mpr allDigits]
  have inIntegerRange : integerRange value = true := by
    rw [integerRange_iff]
    omega
  simp [wholeDigits_toDigits, natOfDigits_toDigits, inIntegerRange]

end SyntaxQuery.Json
