import SyntaxQuery.Proofs.Regex.CacheAnswers
import SyntaxQuery.Selector.Decode

/-!
Contract: decodings whose result does not depend on the store of compiled patterns.

`Decoder.Answers` fixes the result of a computation on every sound store, and keeps the store sound.
It holds of all that asks for no pattern and of patterns that do not clash, and passes through
sequencing.

Does not own: what values decode to.
-/

namespace SyntaxQuery.Decoder

variable {α β : Type} {build : Regex.Builder}

/-- On every sound store of a library the computation gives the same answer and leaves a sound
store. -/
def Answers (build : Regex.Builder) (decoder : Decoder α) (answer : Except SelectorError α) :
    Prop :=
  ∀ cache : RegexCache, cache.Sound build →
    (decoder.runOn build cache).1 = answer ∧ (decoder.runOn build cache).2.Sound build

/-- The computation gives one answer on all sound stores of a library. -/
def Steady (build : Regex.Builder) (decoder : Decoder α) : Prop :=
  ∃ answer, decoder.Answers build answer

theorem runOn_bind (first : Decoder α) (next : α → Decoder β) (build : Regex.Builder)
    (cache : RegexCache) :
    (first >>= next).runOn build cache =
      match first.runOn build cache with
      | (.ok value, cache) => (next value).runOn build cache
      | (.error error, cache) => (.error error, cache) := by
  simp only [runOn, ReaderT.run_bind, ExceptT.run_bind, StateT.run_bind]
  rcases (first.run build).run.run cache with ⟨found, rest⟩
  cases found with
  | ok value => rfl
  | error error => rfl

theorem answers_pure (value : α) : (pure value : Decoder α).Answers build (.ok value) :=
  fun _ sound => ⟨rfl, sound⟩

theorem answers_throw (error : SelectorError) :
    (throw error : Decoder α).Answers build (.error error) :=
  fun _ sound => ⟨rfl, sound⟩

theorem Answers.bind {first : Decoder α} {next : α → Decoder β} {value : α}
    {answer : Except SelectorError β} (firstAnswers : first.Answers build (.ok value))
    (nextAnswers : (next value).Answers build answer) : (first >>= next).Answers build answer := by
  intro cache sound
  obtain ⟨gives, restSound⟩ := firstAnswers cache sound
  rw [runOn_bind]
  rcases outcome : first.runOn build cache with ⟨found, rest⟩
  rw [outcome] at gives restSound
  cases gives
  exact nextAnswers rest restSound

theorem Answers.bind_error {first : Decoder α} {error : SelectorError}
    (firstAnswers : first.Answers build (.error error)) (next : α → Decoder β) :
    (first >>= next).Answers build (.error error) := by
  intro cache sound
  obtain ⟨gives, restSound⟩ := firstAnswers cache sound
  rw [runOn_bind]
  rcases outcome : first.runOn build cache with ⟨found, rest⟩
  rw [outcome] at gives restSound
  cases gives
  exact ⟨rfl, restSound⟩

theorem Answers.steady {decoder : Decoder α} {answer : Except SelectorError α}
    (answers : decoder.Answers build answer) : decoder.Steady build :=
  ⟨answer, answers⟩

theorem steady_pure (value : α) : (pure value : Decoder α).Steady build :=
  (answers_pure value).steady

theorem steady_throw (error : SelectorError) : (throw error : Decoder α).Steady build :=
  (answers_throw error).steady

theorem Steady.bind {first : Decoder α} {next : α → Decoder β} (firstSteady : first.Steady build)
    (nextSteady : ∀ value, (next value).Steady build) : (first >>= next).Steady build := by
  obtain ⟨found, firstAnswers⟩ := firstSteady
  cases found with
  | error error => exact (firstAnswers.bind_error next).steady
  | ok value =>
      obtain ⟨answer, nextAnswers⟩ := nextSteady value
      exact (firstAnswers.bind nextAnswers).steady

/-- What a pattern decodes to, given the outcome of its compilation. -/
def patternAnswer (source options : String) :
    Except Regex.Fault Regex → Except SelectorError Pattern
  | .ok regex => .ok ⟨source, options, regex⟩
  | .error fault => .error (.invalidPattern source fault)

theorem runOn_pattern (source options : String) (build : Regex.Builder) (cache : RegexCache) :
    (pattern source options).runOn build cache =
      (patternAnswer source options (cache.answer build source options),
        (cache.get build source options).2) := by
  show (match (cache.get build source options).1 with
    | .ok regex => (pure ⟨source, options, regex⟩ : Decoder Pattern)
    | .error fault => throw (SelectorError.invalidPattern source fault)).runOn build
      (cache.get build source options).2 = _
  unfold RegexCache.answer
  cases (cache.get build source options).1 with
  | ok regex => rfl
  | error fault => rfl

/-- A pattern that does not clash decodes as its compilation says. -/
theorem answers_pattern {source options : String}
    (unclashing : ¬ RegexCache.Clashes build source options) :
    (pattern source options).Answers build
      (patternAnswer source options (Regex.compile build source options)) := by
  intro cache sound
  rw [runOn_pattern, sound.answer_eq_compile unclashing]
  exact ⟨rfl, sound.get source options⟩

end SyntaxQuery.Decoder

namespace SyntaxQuery.Selector

/-- What a value decodes to with a library, after some calls. -/
def decodedAfter (build : Regex.Builder) (calls : List RegexCache.Call) (value : Json) :
    Except SelectorError Selector :=
  ((decode value).runOn build (RegexCache.after build calls)).1

/-- A value with one answer on all sound stores has that answer after any calls. -/
theorem decodedAfter_of_answers {build : Regex.Builder} {value : Json}
    {answer : Except SelectorError Selector} (answers : (decode value).Answers build answer)
    (calls : List RegexCache.Call) : decodedAfter build calls value = answer :=
  (answers _ (RegexCache.sound_after build calls)).1

/-! ## Parts by their keys -/

theorem decodePart_eq (key : String) (members : Members) :
    decodePart key members =
      match Json.lookup? key members with
      | none => pure none
      | some value =>
          if isNull value then pure none
          else decode value >>= fun selector => pure (some selector) := by
  induction members with
  | nil => rfl
  | cons first rest inductionHypothesis =>
      obtain ⟨name, value⟩ := first
      rw [decodePart, Json.lookup?, inductionHypothesis]
      split <;> rfl

theorem decodeList_eq (kind key : String) (members : Members) :
    decodeList kind key members =
      match Json.lookup? key members with
      | some (.array items) => decodeAll items
      | _ => throw (.missingField kind key) := by
  induction members with
  | nil => rfl
  | cons first rest inductionHypothesis =>
      obtain ⟨name, value⟩ := first
      by_cases isKey : name = key
      · cases value <;> simp only [decodeList, Json.lookup?, if_pos isKey]
      · cases value <;> simp only [decodeList, Json.lookup?, if_neg isKey, inductionHypothesis]

/-- The operand of an attribute test, missing when there is none or it is null. -/
def decodeOperandMember (members : Members) : Decoder (Option Operand) :=
  match Json.lookup? "value" members with
  | none => pure none
  | some .null => pure none
  | some value => decodeOperand value >>= fun operand => pure (some operand)

theorem decodeAttribute_eq (members : Members) :
    decodeAttribute members = (do
      let path ← requiredText "attribute" "name" members
      let operator? ← decodeOperator members
      let operand? ← decodeOperandMember members
      if operator?.isSome ∧ operand?.isNone then throw (.operatorWithoutOperand path)
      else pure (.attribute path operator? operand?)) := by
  unfold decodeAttribute decodeOperandMember
  refine congrArg _ (funext fun path => congrArg _ (funext fun operator? => ?_))
  cases Json.lookup? "value" members with
  | none => simp only [pure_bind]
  | some value => cases value <;> simp only [bind_assoc, pure_bind]

/-- The selector of a shape, with its mark, that the members of an object describe. -/
def decodeShape (tag : String) (members : Members) (subject : Bool) : Shape → Decoder Selector
  | .wildcard => pure (.single .wildcard subject)
  | .identifier => do
      let value ← requiredText tag "value" members
      pure (.single (.identifier value) subject)
  | .field => do
      let path ← requiredText tag "name" members
      pure (.single (.field path) subject)
  | .attribute => do
      let test ← decodeAttribute members
      pure (.single test subject)
  | .group grouping => do
      let parts ← decodeList tag "selectors" members
      pure (.group grouping parts subject)
  | .relation combinator => do
      let left ← requirePart tag "left" (← decodePart "left" members)
      let right ← requirePart tag "right" (← decodePart "right" members)
      pure (.relation combinator left right subject)
  | .place edge => do
      let index ← indexMember tag members
      let of? ← decodePart "right" members
      pure (.place edge index of? subject)

def subjectMember (members : Members) : Bool :=
  ((Json.lookup? "subject" members).bind Json.bool?).getD false

theorem decode_object (members : Members) :
    decode (.object members) =
      match (Json.lookup? "type" members).bind Json.string? with
      | none => throw (.missingField "selector" "type")
      | some tag =>
          match Shape.ofTag? tag with
          | none => throw (.unknownTag tag (suggestTag? tag))
          | some shape => decodeShape tag members (subjectMember members) shape := by
  rw [decode]
  cases (Json.lookup? "type" members).bind Json.string? with
  | none => rfl
  | some tag =>
      dsimp only
      cases Shape.ofTag? tag with
      | none => rfl
      | some shape => cases shape <;> rfl

end SyntaxQuery.Selector
