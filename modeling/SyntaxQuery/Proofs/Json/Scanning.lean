import SyntaxQuery.Json.Printer
import SyntaxQuery.Proofs.Json.Numerals

/-!
Contract: scanning the text of tokens.

A numeral or a word ends only where the next token begins. So there are two properties of a sequence
of tokens: its text is read completely, or it is read up to a numeral or word that ends with the next
delimiter. Each number that is read is spelled by a numeral.

Does not own: putting tokens together to values.
-/

namespace SyntaxQuery.Json

open Scanner

/-! ## Numbers come from numerals -/

/-- Each number among the tokens is spelled by some text. -/
def FromNumerals (tokens : List Token) : Prop :=
  ∀ number, .number number ∈ tokens → ∃ text, numeral? text = some number

theorem FromNumerals.cons {tokens : List Token} {token : Token} (fromNumerals : FromNumerals tokens)
    (head : ∀ number, token = .number number → ∃ text, numeral? text = some number) :
    FromNumerals (token :: tokens) := by
  intro number isToken
  rcases List.mem_cons.mp isToken with same | later
  · exact head number same.symm
  · exact fromNumerals number later

theorem FromNumerals.begin {tokens : List Token} {character : Char} {after : Scanner}
    (fromNumerals : FromNumerals tokens) (begun : Scanner.begin tokens character = some after) :
    FromNumerals after.tokens := by
  unfold Scanner.begin at begun
  split at begun
  · cases begun
    exact fromNumerals
  · split at begun
    · cases begun
      exact fromNumerals
    · split at begun
      · cases begun
        exact fromNumerals
      · split at begun <;> cases begun
        -- A quote begins a token; the other characters are tokens themselves.
        case h_7 => exact fromNumerals
        all_goals exact fromNumerals.cons fun number => Token.noConfusion

theorem ne_number_of_word? {letters : List Char} {token : Token} (found : word? letters = some token)
    (number : Number) : token ≠ .number number := by
  unfold word? at found
  split at found
  · cases found
    exact Token.noConfusion
  · split at found
    · cases found
      exact Token.noConfusion
    · split at found
      · cases found
        exact Token.noConfusion
      · cases found

theorem FromNumerals.settle {scanner : Scanner} {tokens : List Token}
    (fromNumerals : FromNumerals scanner.tokens) (settled : scanner.settle = some tokens) :
    FromNumerals tokens := by
  obtain ⟨mode, read⟩ := scanner
  cases mode with
  | between =>
      cases settled
      exact fromNumerals
  | numeral characters =>
      obtain ⟨value, found, same⟩ := Option.bind_eq_some_iff.mp settled
      cases same
      refine fromNumerals.cons ?_
      rintro number ⟨⟩
      exact ⟨_, found⟩
  | word letters =>
      obtain ⟨token, found, same⟩ := Option.bind_eq_some_iff.mp settled
      cases same
      refine fromNumerals.cons ?_
      intro number isNumber
      exact absurd isNumber (ne_number_of_word? found number)
  | _ => cases settled

/-- What a step reads: nothing, a string, or the beginning of a token after the one that it ends. -/
theorem tokens_of_step {scanner after : Scanner} {character : Char}
    (stepped : scanner.step character = some after) :
    after.tokens = scanner.tokens ∨
      (∃ value, after.tokens = .string value :: scanner.tokens) ∨
      ∃ tokens, scanner.settle = some tokens ∧ Scanner.begin tokens character = some after := by
  obtain ⟨mode, tokens⟩ := scanner
  unfold Scanner.step at stepped
  dsimp only at stepped
  split at stepped
  · exact .inr (.inr ⟨tokens, rfl, stepped⟩)
  · split at stepped
    · cases stepped
      exact .inl rfl
    · exact .inr (.inr (Option.bind_eq_some_iff.mp stepped))
  · split at stepped
    · cases stepped
      exact .inl rfl
    · exact .inr (.inr (Option.bind_eq_some_iff.mp stepped))
  · split at stepped
    · cases stepped
      exact .inr (.inl ⟨_, rfl⟩)
    · split at stepped
      · cases stepped
        exact .inl rfl
      · obtain ⟨_, stepped⟩ := Option.ite_none_left_eq_some.mp stepped
        cases stepped
        exact .inl rfl
  · split at stepped
    · cases stepped
      exact .inl rfl
    · obtain ⟨_, _, same⟩ := Option.bind_eq_some_iff.mp stepped
      cases same
      exact .inl rfl
  · obtain ⟨_, _, stepped⟩ := Option.bind_eq_some_iff.mp stepped
    split at stepped
    · cases stepped
      exact .inl rfl
    · obtain ⟨_, _, same⟩ := Option.bind_eq_some_iff.mp stepped
      cases same
      exact .inl rfl
  · obtain ⟨_, stepped⟩ := Option.ite_none_right_eq_some.mp stepped
    cases stepped
    exact .inl rfl
  · obtain ⟨_, stepped⟩ := Option.ite_none_right_eq_some.mp stepped
    cases stepped
    exact .inl rfl

theorem FromNumerals.step {scanner after : Scanner} {character : Char}
    (fromNumerals : FromNumerals scanner.tokens)
    (stepped : scanner.step character = some after) : FromNumerals after.tokens := by
  rcases tokens_of_step stepped with same | ⟨value, isString⟩ | ⟨tokens, settled, begun⟩
  · rw [same]
    exact fromNumerals
  · rw [isString]
    exact fromNumerals.cons fun number => Token.noConfusion
  · exact (fromNumerals.settle settled).begin begun

theorem FromNumerals.run {scanner after : Scanner} {text : List Char}
    (fromNumerals : FromNumerals scanner.tokens) (ran : scanner.run text = some after) :
    FromNumerals after.tokens := by
  induction text generalizing scanner with
  | nil =>
      cases ran
      exact fromNumerals
  | cons character rest inductionHypothesis =>
      obtain ⟨next, stepped, onward⟩ := Option.bind_eq_some_iff.mp ran
      exact inductionHypothesis (fromNumerals.step stepped) onward

/-- Each number in the tokens of a text is spelled by some numeral. -/
theorem fromNumerals_of_scan? {text : List Char} {tokens : List Token}
    (scanned : scan? text = some tokens) : FromNumerals tokens := by
  obtain ⟨scanner, ran, ended⟩ := Option.bind_eq_some_iff.mp scanned
  obtain ⟨read, settled, same⟩ := Option.bind_eq_some_iff.mp ended
  cases same
  have start : FromNumerals (⟨.between, []⟩ : Scanner).tokens :=
    fun _ isToken => absurd isToken List.not_mem_nil
  intro number isToken
  exact (start.run ran).settle settled number (List.mem_reverse.mp isToken)

/-! ## The text of tokens -/

/-- The text of the tokens is read completely. -/
def ReadsTo (tokens : List Token) : Prop :=
  ∀ before, Scanner.run ⟨.between, before⟩ (tokens.flatMap Token.text) =
    some ⟨.between, tokens.reverse ++ before⟩

/-- The text of the tokens is read but for the end of the last numeral or word. -/
def ReadsUpTo (tokens : List Token) : Prop :=
  ∀ before, ∃ scanner,
    Scanner.run ⟨.between, before⟩ (tokens.flatMap Token.text) = some scanner ∧
      scanner.settle = some (tokens.reverse ++ before)

theorem ReadsTo.readsUpTo {tokens : List Token} (reads : ReadsTo tokens) : ReadsUpTo tokens :=
  fun before => ⟨_, reads before, rfl⟩

theorem readsTo_nil : ReadsTo [] :=
  fun _ => rfl

theorem ReadsTo.append {tokens later : List Token} (reads : ReadsTo tokens)
    (readsLater : ReadsUpTo later) : ReadsUpTo (tokens ++ later) := by
  intro before
  obtain ⟨scanner, ran, settled⟩ := readsLater (tokens.reverse ++ before)
  refine ⟨scanner, ?_, ?_⟩
  · rw [List.flatMap_append, Scanner.run_append, reads before, Option.bind_some, ran]
  · rw [settled, List.reverse_append, List.append_assoc]

theorem ReadsTo.trans {tokens later : List Token} (reads : ReadsTo tokens)
    (readsLater : ReadsTo later) : ReadsTo (tokens ++ later) := by
  intro before
  rw [List.flatMap_append, Scanner.run_append, reads before, Option.bind_some, readsLater,
    List.reverse_append, List.append_assoc]

/-- The token is a character that ends a numeral or word before it. -/
def Delimits (token : Token) : Prop :=
  ∃ character, token.text = [character] ∧ isNumeralChar character = false ∧
    isWordChar character = false ∧
    ∀ before, Scanner.begin before character = some ⟨.between, token :: before⟩

theorem delimits_comma : Delimits .comma :=
  ⟨',', rfl, rfl, rfl, fun _ => rfl⟩

theorem delimits_colon : Delimits .colon :=
  ⟨':', rfl, rfl, rfl, fun _ => rfl⟩

theorem delimits_endArray : Delimits .endArray :=
  ⟨']', rfl, rfl, rfl, fun _ => rfl⟩

theorem delimits_endObject : Delimits .endObject :=
  ⟨'\x7d', rfl, rfl, rfl, fun _ => rfl⟩

/-- A delimiter is read after whatever can be settled. -/
theorem step_of_settle {scanner : Scanner} {tokens : List Token} {character : Char}
    (settled : scanner.settle = some tokens) (noNumeral : isNumeralChar character = false)
    (noWord : isWordChar character = false) :
    scanner.step character = Scanner.begin tokens character := by
  obtain ⟨mode, read⟩ := scanner
  cases mode with
  | between =>
      cases settled
      rfl
  | numeral characters =>
      simp only [Scanner.step, noNumeral, Bool.false_eq_true, if_false]
      rw [settled]
      rfl
  | word letters =>
      simp only [Scanner.step, noWord, Bool.false_eq_true, if_false]
      rw [settled]
      rfl
  | _ => cases settled

theorem ReadsUpTo.delimit {tokens : List Token} (reads : ReadsUpTo tokens) {token : Token}
    (delimits : Delimits token) : ReadsTo (tokens ++ [token]) := by
  intro before
  obtain ⟨scanner, ran, settled⟩ := reads before
  obtain ⟨character, isText, noNumeral, noWord, begins⟩ := delimits
  rw [List.flatMap_append, Scanner.run_append, ran, Option.bind_some, List.flatMap_singleton,
    isText, Scanner.run, step_of_settle settled noNumeral noWord, begins, List.reverse_append]
  rfl

/-! ## Strings -/

theorem digitOf?_hexDigit (value : Fin 16) : digitOf? 16 (hexDigit value) = some value.val := by
  revert value
  decide

/-- A control character is read back from its code. -/
theorem run_controlEscape {character : Char} (isControl : character.toNat < 0x20)
    (read : List Char) (tokens : List Token) :
    Scanner.run ⟨.string read, tokens⟩
        ['\\', 'u', '0', '0', hexDigit (character.toNat / 16), hexDigit (character.toNat % 16)] =
      some ⟨.string (character :: read), tokens⟩ := by
  have high : digitOf? 16 (hexDigit (character.toNat / 16)) = some (character.toNat / 16) :=
    digitOf?_hexDigit ⟨character.toNat / 16, by omega⟩
  have low : digitOf? 16 (hexDigit (character.toNat % 16)) = some (character.toNat % 16) :=
    digitOf?_hexDigit ⟨character.toNat % 16, by omega⟩
  have noSurrogate : endUnit read none character.toNat = some (.string (character :: read)) := by
    have notHigh : isHighSurrogate character.toNat = false := by
      simp only [isHighSurrogate, Bool.and_eq_false_iff, decide_eq_false_iff_not]
      omega
    have notLow : isLowSurrogate character.toNat = false := by
      simp only [isLowSurrogate, Bool.and_eq_false_iff, decide_eq_false_iff_not]
      omega
    simp [endUnit, notHigh, notLow]
  have code : character.toNat / 16 * 16 + character.toNat % 16 = character.toNat := by omega
  show Scanner.run ⟨.unit read none 2 0, tokens⟩ _ = _
  simp [Scanner.run, Scanner.step, high, low, code, noSurrogate]

theorem run_escape (character : Char) (read : List Char) (tokens : List Token) :
    Scanner.run ⟨.string read, tokens⟩ (escape character) =
      some ⟨.string (character :: read), tokens⟩ := by
  unfold escape
  split
  · rfl
  · rfl
  · rfl
  · rfl
  · rfl
  · rfl
  · rfl
  · next notQuote notBackslash _ _ _ _ _ =>
      dsimp only
      split
      · next isControl => exact run_controlEscape isControl read tokens
      · next notControl =>
          have plain : character ≠ '"' ∧ character ≠ '\\' := ⟨notQuote, notBackslash⟩
          simp [Scanner.run, Scanner.step, plain, notControl]

theorem run_escapes (characters read : List Char) (tokens : List Token) :
    Scanner.run ⟨.string read, tokens⟩ (characters.flatMap escape) =
      some ⟨.string (characters.reverse ++ read), tokens⟩ := by
  induction characters generalizing read with
  | nil => rfl
  | cons character rest inductionHypothesis =>
      rw [List.flatMap_cons, Scanner.run_append, run_escape, Option.bind_some, inductionHypothesis,
        List.reverse_cons, List.append_assoc, List.singleton_append]

theorem readsTo_string (value : String) : ReadsTo [.string value] := by
  intro before
  have characters := run_escapes value.toList [] before
  rw [List.append_nil] at characters
  rw [List.flatMap_singleton, Token.text]
  show (Scanner.run ⟨.string [], before⟩ (value.toList.flatMap escape ++ ['"'])) = _
  rw [Scanner.run_append, characters, Option.bind_some]
  show some (⟨.between, .string (String.ofList value.toList.reverse.reverse) :: before⟩ : Scanner) = _
  rw [List.reverse_reverse, String.ofList_toList]
  rfl

/-! ## Numbers -/

theorem run_numeralChars {text : List Char} (chars : NumeralChars text) (read : List Char)
    (tokens : List Token) :
    Scanner.run ⟨.numeral read, tokens⟩ text = some ⟨.numeral (text.reverse ++ read), tokens⟩ := by
  induction text generalizing read with
  | nil => rfl
  | cons character rest inductionHypothesis =>
      obtain ⟨isChar, restChars⟩ := numeralChars_cons.mp chars
      simp only [Scanner.run, Scanner.step, isChar, if_true, Option.bind_eq_bind, Option.bind_some]
      rw [inductionHypothesis restChars, List.reverse_cons, List.append_assoc,
        List.singleton_append]

theorem readsUpTo_number {number : Number} (readsBack : number.ReadsBack) :
    ReadsUpTo [.number number] := by
  intro before
  obtain ⟨⟨first, rest, isText, begins, chars⟩, _⟩ := chars_and_number_of_numeral? readsBack
  have notSpace : isSpace first = false := by
    by_contra isSpace
    simp only [SyntaxQuery.Json.isSpace, Bool.not_eq_false, Bool.or_eq_true, beq_iff_eq] at isSpace
    rcases isSpace with ((rfl | rfl) | rfl) | rfl <;> exact absurd begins (by decide)
  have begun : Scanner.begin before first = some ⟨.numeral [first], before⟩ := by
    unfold Scanner.begin
    rw [notSpace, if_neg Bool.false_ne_true, if_pos begins]
  refine ⟨⟨.numeral (rest.reverse ++ [first]), before⟩, ?_, ?_⟩
  · rw [List.flatMap_singleton, Token.text, isText]
    show (Scanner.begin before first).bind (Scanner.run · rest) = _
    rw [begun, Option.bind_some, run_numeralChars chars]
  · have whole : (rest.reverse ++ [first]).reverse = number.text := by
      rw [List.reverse_append, List.reverse_reverse, isText]
      rfl
    show (numeral? (rest.reverse ++ [first]).reverse).bind (fun value =>
      some (.number value :: before)) = _
    rw [whole, readsBack]
    rfl

/-! ## Values -/

theorem readsUpTo_null : ReadsUpTo [.null] :=
  fun _ => ⟨_, rfl, rfl⟩

theorem readsUpTo_bool (value : Bool) : ReadsUpTo [.bool value] := by
  intro before
  cases value <;> exact ⟨_, rfl, rfl⟩

theorem readsTo_beginArray : ReadsTo [.beginArray] :=
  fun _ => rfl

theorem readsTo_beginObject : ReadsTo [.beginObject] :=
  fun _ => rfl

/-- A key and its colon. -/
theorem readsTo_key (key : String) : ReadsTo [.string key, .colon] :=
  (readsTo_string key).readsUpTo.delimit delimits_colon

end SyntaxQuery.Json
