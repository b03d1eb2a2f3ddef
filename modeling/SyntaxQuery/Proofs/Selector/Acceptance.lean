import SyntaxQuery.Document.Node
import SyntaxQuery.Expression.Reader
import SyntaxQuery.Proofs.Json.Numbers
import SyntaxQuery.Proofs.Selector.RoundTrip

/-!
Contract: what is true of every selector that is read, and when a written selector is read back.

Numbers in JSON are finite, and an operator without an operand is refused, so both hold of all that
is read, with any library and on any store. Together with the round trip they give the exact
condition under which writing and reading returns the selector.

Does not own: the reading of written selectors.
-/

namespace SyntaxQuery

/-! ## Results of decodings -/

namespace Decoder

variable {α β : Type}

/-- What the computation results in, with any library and on any store, has the property. -/
def Yields (decoder : Decoder α) (Holds : α → Prop) : Prop :=
  ∀ (build : Regex.Builder) (cache : RegexCache) (value : α),
    (decoder.runOn build cache).1 = .ok value → Holds value

theorem yields_pure {Holds : α → Prop} {value : α} (holds : Holds value) :
    (pure value : Decoder α).Yields Holds := by
  rintro build cache found ⟨⟩
  exact holds

theorem yields_throw {Holds : α → Prop} (error : SelectorError) :
    (throw error : Decoder α).Yields Holds := by
  rintro build cache found ⟨⟩

theorem yields_anything (decoder : Decoder α) : decoder.Yields fun _ => True :=
  fun _ _ _ _ => trivial

theorem Yields.bind {first : Decoder α} {next : α → Decoder β} {Holds : α → Prop}
    {Later : β → Prop} (firstYields : first.Yields Holds)
    (nextYields : ∀ value, Holds value → (next value).Yields Later) :
    (first >>= next).Yields Later := by
  intro build cache result found
  rw [runOn_bind] at found
  rcases outcome : first.runOn build cache with ⟨answer, rest⟩
  rw [outcome] at found
  cases answer with
  | error error => cases found
  | ok value =>
      have holds := firstYields build cache value (by rw [outcome])
      exact nextYields value holds build rest result found

end Decoder

namespace Selector

open Decoder

/-- The test has no infinite number, and an operand if it has an operator. -/
def IsFaithful (test : NodeTest) : Prop :=
  test.HasFiniteLiteral ∧ test.missingOperand? = none

/-- All tests in the selector are faithful. -/
def AreFaithful (selector : Selector) : Prop :=
  ∀ test ∈ selector.tests, IsFaithful test

theorem yields_decodeLiteral {value : Json} (representable : value.IsRepresentable) :
    (decodeLiteral value).Yields Literal.IsFinite := by
  cases value with
  | null => exact yields_pure trivial
  | bool value => exact yields_pure trivial
  | string value => exact yields_pure trivial
  | number value =>
      exact yields_pure (representable value List.mem_cons_self).isFinite_toFloat
  | array items => exact yields_throw _
  | object members => exact yields_throw _

theorem yields_decodeOperand {value : Json} (representable : value.IsRepresentable) (path : String)
    (operator? : Option Operator) :
    (decodeOperand value).Yields fun operand =>
      (NodeTest.attribute path operator? (some operand)).HasFiniteLiteral := by
  cases value with
  | object members =>
      rw [decodeOperand]
      split
      · exact yields_throw _
      · next tag found =>
          split
          · exact (yields_anything _).bind fun _ _ => yields_pure trivial
          · split
            · refine Yields.bind (yields_decodeLiteral ?_) fun _ finite => yields_pure finite
              cases inner : Json.lookup? "value" members with
              | none => exact fun _ member => absurd member List.not_mem_nil
              | some held => exact representable.member inner
            · split
              · split
                · exact yields_pure trivial
                · exact yields_throw _
              · exact yields_throw _
  | _ => exact yields_throw _

theorem yields_decodeAttribute {members : Members}
    (representable : (Json.object members).IsRepresentable) :
    (decodeAttribute members).Yields IsFaithful := by
  rw [decodeAttribute_eq]
  refine (yields_anything _).bind fun path _ => ?_
  refine (yields_anything _).bind fun operator? _ => ?_
  have operandYields : (decodeOperandMember members).Yields fun operand? =>
      (NodeTest.attribute path operator? operand?).HasFiniteLiteral := by
    unfold decodeOperandMember
    split
    · exact yields_pure trivial
    · exact yields_pure trivial
    · next value _ found =>
        refine (yields_decodeOperand (representable.member found) path operator?).bind ?_
        exact fun operand finite => yields_pure finite
  refine operandYields.bind fun operand? finite => ?_
  split
  · exact yields_throw _
  · next complete =>
      refine yields_pure ⟨finite, ?_⟩
      cases operator? <;> cases operand? <;> simp_all [NodeTest.missingOperand?]

theorem yields_requirePart {kind key : String} {part? : Option Selector}
    (faithful : ∀ part ∈ part?, part.AreFaithful) :
    (requirePart kind key part?).Yields AreFaithful := by
  unfold requirePart
  split
  · exact yields_pure (faithful _ rfl)
  · exact yields_throw _

theorem yields_decodePart {key : String} {members : Members}
    (valueYields : ∀ value, Json.lookup? key members = some value →
      (decode value).Yields AreFaithful) :
    (decodePart key members).Yields fun part? => ∀ part ∈ part?, part.AreFaithful := by
  rw [decodePart_eq]
  split
  · exact yields_pure fun part member => by cases member
  · next value found =>
      split
      · exact yields_pure fun part member => by cases member
      · refine (valueYields value found).bind fun part faithful => yields_pure ?_
        rintro _ ⟨⟩
        exact faithful

theorem yields_decodeAll {items : List Json}
    (each : ∀ item ∈ items, (decode item).Yields AreFaithful) :
    (decodeAll items).Yields fun parts => ∀ test ∈ allTests parts, IsFaithful test := by
  induction items with
  | nil => exact yields_pure fun test member => by cases member
  | cons item rest inductionHypothesis =>
      rw [decodeAll]
      refine (each item List.mem_cons_self).bind fun first firstFaithful => ?_
      refine (inductionHypothesis fun other member => ?_).bind fun others othersFaithful => ?_
      · exact each other (List.mem_cons_of_mem item member)
      · refine yields_pure ?_
        rw [allTests, List.forall_mem_append]
        exact ⟨firstFaithful, othersFaithful⟩

theorem yields_decodeShape {members : Members}
    (representable : (Json.object members).IsRepresentable)
    (valueYields : ∀ key value, Json.lookup? key members = some value →
      (decode value).Yields AreFaithful)
    (listYields : ∀ key items, Json.lookup? key members = some (.array items) →
      (decodeAll items).Yields fun parts => ∀ test ∈ allTests parts, IsFaithful test)
    (tag : String) (subject : Bool) (shape : Shape) :
    (decodeShape tag members subject shape).Yields AreFaithful := by
  cases shape with
  | wildcard => exact yields_pure (List.forall_mem_singleton.mpr ⟨trivial, rfl⟩)
  | identifier =>
      refine (yields_anything _).bind fun value _ => yields_pure ?_
      exact List.forall_mem_singleton.mpr ⟨trivial, rfl⟩
  | field =>
      refine (yields_anything _).bind fun path _ => yields_pure ?_
      exact List.forall_mem_singleton.mpr ⟨trivial, rfl⟩
  | «attribute» =>
      refine (yields_decodeAttribute representable).bind fun test faithful => yields_pure ?_
      exact List.forall_mem_singleton.mpr faithful
  | group grouping =>
      refine Yields.bind ?_ fun parts faithful => yields_pure faithful
      rw [decodeList_eq]
      split
      · next items found => exact listYields _ items found
      · exact yields_throw _
  | relation combinator =>
      refine (yields_decodePart (valueYields "left")).bind fun left? leftPart => ?_
      refine (yields_requirePart leftPart).bind fun left leftFaithful => ?_
      refine (yields_decodePart (valueYields "right")).bind fun right? rightPart => ?_
      refine (yields_requirePart rightPart).bind fun right rightFaithful => yields_pure ?_
      exact List.forall_mem_append.mpr ⟨leftFaithful, rightFaithful⟩
  | place edge =>
      refine (yields_anything _).bind fun index _ => ?_
      refine (yields_decodePart (valueYields "right")).bind fun of? faithful => yields_pure ?_
      cases of? with
      | none => exact fun test member => absurd member List.not_mem_nil
      | some inner => exact faithful inner rfl

/-- Whatever is read has only finite numbers and complete attribute tests. -/
theorem yields_decode : ∀ value : Json, value.IsRepresentable → (decode value).Yields AreFaithful
  | .object members, representable => by
      rw [decode_object]
      split
      · exact yields_throw _
      · split
        · exact yields_throw _
        · refine yields_decodeShape representable ?_ ?_ _ _ _
          · intro key value found
            have smaller : value.size < (Json.object members).size := Json.size_lt_of_member found
            exact yields_decode value (representable.member found)
          · intro key items found
            have smaller : (Json.array items).size < (Json.object members).size :=
              Json.size_lt_of_member found
            refine yields_decodeAll fun item member => ?_
            have within := Json.size_le_itemsSize member
            exact yields_decode item ((representable.member found).item member)
  | .null, _ => yields_throw _
  | .bool _, _ => yields_throw _
  | .number _, _ => yields_throw _
  | .string _, _ => yields_throw _
  | .array _, _ => yields_throw _
termination_by value => value.size
decreasing_by
  · exact smaller
  · simp only [Json.size] at smaller ⊢
    omega

/-! ## Writing and reading -/

theorem firstMissing?_eq_none_iff (selector : Selector) :
    firstMissing? selector.tests = none ↔ selector.OperandsComplete :=
  List.findSome?_eq_none_iff

/-- With any library, a selector whose patterns compile is read back, after any calls, exactly if
its numbers are finite and no operator lacks an operand, and then the selector read is written
alike. Both hold of every selector that is read. -/
theorem decode_encode_agrees_iff (build : Regex.Builder) :
    (∀ selector : Selector, selector.PatternsCompile build → ∀ calls,
      ((∃ read, decodedAfter build calls selector.encode = .ok read ∧
          read.agrees selector = true) ↔
        selector.NumbersFinite ∧ selector.OperandsComplete) ∧
      (selector.NumbersFinite → selector.OperandsComplete → ∀ read,
        decodedAfter build calls selector.encode = .ok read → read.encode = selector.encode)) ∧
    ∀ value : Json, value.IsRepresentable → ∀ calls read,
      decodedAfter build calls value = .ok read → read.NumbersFinite ∧ read.OperandsComplete := by
  refine ⟨fun selector compiles calls => ?_, fun value representable calls read found => ?_⟩
  · have answers := answers_decode_encode selector compiles
    rw [decodedAfter_of_answers answers]
    constructor
    · cases missing : firstMissing? selector.tests with
      | none =>
          have complete := (firstMissing?_eq_none_iff selector).mp missing
          rw [← settle_agrees_iff build]
          constructor
          · rintro ⟨read, ⟨⟩, agrees⟩
            exact ⟨agrees, complete⟩
          · exact fun faithful => ⟨selector.settle build, rfl, faithful.1⟩
      | some path =>
          constructor
          · rintro ⟨read, ⟨⟩, agrees⟩
          · intro faithful
            rw [(firstMissing?_eq_none_iff selector).mpr faithful.2] at missing
            cases missing
    · intro finite complete read found
      rw [(firstMissing?_eq_none_iff selector).mpr complete] at found
      cases found
      exact encode_settle selector
  · have faithful := yields_decode value representable build _ read found
    exact ⟨fun test member => (faithful test member).1, fun test member => (faithful test member).2⟩

/-- A test for a name that a pattern matches. -/
def namePattern : NodeTest :=
  .attribute "name" (some .equal) (some (.pattern ⟨"a/b", "i", ⟨fun _ => false⟩⟩))

/-- A test for a small number. -/
def smallNumber : NodeTest :=
  .attribute "size" (some .less) (some (.literal (.number 1)))

/-- A marked selector with a pattern and a number. -/
def markedChild : Selector :=
  .relation .child (.single (.identifier "A") true)
    (.group .allOf [.single namePattern false, .single smallNumber false] false) false

theorem forall_markedChild_tests {Holds : NodeTest → Prop} (name : Holds (.identifier "A"))
    (pattern : Holds namePattern) (number : Holds smallNumber) :
    ∀ test ∈ markedChild.tests, Holds test :=
  List.forall_mem_cons.mpr ⟨name, List.forall_mem_cons.mpr ⟨pattern,
    List.forall_mem_singleton.mpr number⟩⟩

/-- The value of a test for a small size. -/
def smallSize : Json :=
  .object [("type", .string "attribute"), ("name", .string "size"), ("operator", .string "<"),
    ("value", .object [("type", .string "literal"), ("value", Json.ofNat 5)])]

/-- The marked selector is read back after a call, and the test is read with a finite number. -/
theorem markedChild_agrees_smallSize_finite :
    markedChild.PatternsCompile Expression.build ∧ markedChild.NumbersFinite ∧
      markedChild.OperandsComplete ∧
      (∃ read, decodedAfter Expression.build [.get "x" ""] markedChild.encode = .ok read ∧
        read.agrees markedChild = true ∧ read.encode = markedChild.encode) ∧
      smallSize.IsRepresentable ∧
      ∃ read, decodedAfter Expression.build [] smallSize = .ok read ∧
        read.NumbersFinite ∧ read.OperandsComplete := by
  have compiles : markedChild.PatternsCompile Expression.build :=
    forall_markedChild_tests trivial ⟨_, rfl⟩ trivial
  have finite : markedChild.NumbersFinite := by
    refine forall_markedChild_tests trivial trivial ?_
    show (1 : Float).isFinite = true
    rfl
  have complete : markedChild.OperandsComplete := forall_markedChild_tests rfl rfl rfl
  have representable : smallSize.IsRepresentable := by
    intro number member
    have same : number = .integer 5 := List.mem_singleton.mp member
    rw [same]
    exact ⟨by decide, by decide⟩
  obtain ⟨agrees_iff, encodes⟩ :=
    (decode_encode_agrees_iff Expression.build).1 markedChild compiles [.get "x" ""]
  obtain ⟨read, found, agrees⟩ := agrees_iff.mpr ⟨finite, complete⟩
  obtain ⟨small, smallRead⟩ : ∃ read, decodedAfter Expression.build [] smallSize = .ok read :=
    ⟨_, rfl⟩
  exact ⟨compiles, finite, complete, ⟨read, found, agrees, encodes finite complete read found⟩,
    representable, small, smallRead,
    (decode_encode_agrees_iff Expression.build).2 smallSize representable [] small smallRead⟩

end Selector

end SyntaxQuery
