import SyntaxQuery.Proofs.Selector.Decoding
import SyntaxQuery.Proofs.Selector.Settling

/-!
Contract: reading back the selectors that were written.

What is read is the settled selector, unless some attribute test has an operator without an operand:
the first such test in the order of reading is refused (`answers_decode_encode`). The induction is
on the selector; where a part is refused, so is the whole, and with the same error.

Does not own: what settling changes.
-/

namespace SyntaxQuery

namespace Json

theorem lookup?_append (key : String) (before after : List (String × Json)) :
    lookup? key (before ++ after) = (lookup? key before).or (lookup? key after) := by
  induction before with
  | nil => rfl
  | cons first rest inductionHypothesis =>
      obtain ⟨name, value⟩ := first
      rw [List.cons_append, lookup?, lookup?, inductionHypothesis]
      split <;> rfl

end Json

namespace Decoder

variable {α β : Type} {build : Regex.Builder}

/-- The value, unless an operand is missing at a path. -/
def unlessMissing (missing? : Option String) (value : α) : Except SelectorError α :=
  match missing? with
  | none => .ok value
  | some path => .error (.operatorWithoutOperand path)

theorem Answers.bind_unlessMissing {first : Decoder α} {next : α → Decoder β}
    {missing? laterMissing? : Option String} {value : α} {result : β}
    (firstAnswers : first.Answers build (unlessMissing missing? value))
    (nextAnswers : (next value).Answers build (unlessMissing laterMissing? result)) :
    (first >>= next).Answers build (unlessMissing (missing?.or laterMissing?) result) := by
  cases missing? with
  | none => exact firstAnswers.bind nextAnswers
  | some path => exact firstAnswers.bind_error next

/-- After the first step nothing can be missing. -/
theorem Answers.bind_complete {first : Decoder α} {next : α → Decoder β}
    {missing? : Option String} {value : α} {result : β}
    (firstAnswers : first.Answers build (unlessMissing missing? value))
    (nextAnswers : (next value).Answers build (.ok result)) :
    (first >>= next).Answers build (unlessMissing missing? result) := by
  have answers : (first >>= next).Answers build (unlessMissing (missing?.or none) result) :=
    firstAnswers.bind_unlessMissing nextAnswers
  rwa [Option.or_none] at answers

end Decoder

namespace Selector

open Decoder

variable {build : Regex.Builder}

/-! ## Members of written objects -/

/-- The members of an object with a tag and a mark. -/
def taggedMembers (shape : Shape) (members : Members) (subject : Bool) : Members :=
  ("type", .string shape.tag) :: members ++ if subject then [("subject", .bool true)] else []

theorem lookup?_taggedMembers {key : String} (notType : "type" ≠ key) (notSubject : "subject" ≠ key)
    (shape : Shape) (members : Members) (subject : Bool) :
    Json.lookup? key (taggedMembers shape members subject) = Json.lookup? key members := by
  unfold taggedMembers
  rw [List.cons_append, Json.lookup?, if_neg notType, Json.lookup?_append]
  cases subject with
  | false => exact Option.or_none
  | true =>
      rw [if_pos rfl, Json.lookup?, if_neg notSubject]
      exact Option.or_none

theorem subjectMember_taggedMembers {members : Members}
    (unmarked : Json.lookup? "subject" members = none) (shape : Shape) (subject : Bool) :
    subjectMember (taggedMembers shape members subject) = subject := by
  unfold subjectMember taggedMembers
  rw [List.cons_append, Json.lookup?, if_neg (by decide), Json.lookup?_append, unmarked]
  cases subject <;> rfl

theorem decode_tagged {shape : Shape} {members : Members}
    (unmarked : Json.lookup? "subject" members = none) (subject : Bool) :
    decode (tagged shape members subject) =
      decodeShape shape.tag (taggedMembers shape members subject) subject shape := by
  have typeFound : (Json.lookup? "type" (taggedMembers shape members subject)).bind Json.string? =
      some shape.tag := rfl
  show decode (.object (taggedMembers shape members subject)) = _
  rw [decode_object, typeFound]
  dsimp only
  rw [Shape.ofTag?_tag, subjectMember_taggedMembers unmarked]

theorem answers_requiredText {members : Members} {key text : String}
    (found : Json.lookup? key members = some (.string text)) (kind : String) :
    (requiredText kind key members).Answers build (.ok text) := by
  unfold requiredText
  rw [found]
  exact answers_pure text

/-! ## Attribute tests -/

theorem answers_decodeLiteral (literal : Literal) :
    (decodeLiteral literal.encode).Answers build (.ok literal.settle) := by
  cases literal with
  | number value =>
      rw [Literal.encode, Json.ofFloat, Literal.settle]
      split
      · exact answers_pure _
      -- A number that is not finite was written as null and is read as the null literal.
      · exact answers_pure _
  | null => exact answers_pure _
  | bool value => exact answers_pure _
  | string value => exact answers_pure _

theorem answers_decodePattern {compiled : Pattern} {regex : Regex} {members : Members}
    (accepted : RegexCache.empty.answer build compiled.source compiled.options = .ok regex)
    (options : optionalText "flags" members = compiled.options) :
    (decodePattern members (.string compiled.source)).Answers build
      (.ok (compiled.settle build)) := by
  rw [RegexCache.answer_empty] at accepted
  have answers := answers_pattern (RegexCache.not_clashes_of_compile accepted)
  rw [decodePattern, options, Pattern.settle, accepted]
  rwa [accepted] at answers

/-- An operand that was written is read settled. -/
theorem answers_decodeOperand {path : String} {operator? : Option Operator} {operand : Operand}
    (compiles : (NodeTest.attribute path operator? (some operand)).PatternCompiles build) :
    (decodeOperand operand.encode).Answers build (.ok (operand.settle build)) := by
  cases operand with
  | pattern compiled =>
      obtain ⟨regex, accepted⟩ := compiles
      refine (answers_decodePattern accepted ?_).bind (answers_pure _)
      unfold optionalText
      split
      · next noOptions => rw [noOptions]; rfl
      · rfl
  | literal value => exact (answers_decodeLiteral value).bind (answers_pure _)
  | typeName name => exact answers_pure _

theorem answers_decodeOperator {members : Members} {operator? : Option Operator}
    (found : Json.lookup? "operator" members =
      operator?.map fun operator => .string operator.text) :
    (decodeOperator members).Answers build (.ok operator?) := by
  unfold decodeOperator
  rw [found]
  cases operator? with
  | none => exact answers_pure _
  | some operator =>
      rw [Option.map_some]
      dsimp only
      rw [Operator.ofText?_text]
      exact answers_pure _

theorem answers_decodeOperandMember {members : Members} {path : String}
    {operator? : Option Operator} {operand? : Option Operand}
    (found : Json.lookup? "value" members = operand?.map Operand.encode)
    (compiles : (NodeTest.attribute path operator? operand?).PatternCompiles build) :
    (decodeOperandMember members).Answers build (.ok (operand?.map (Operand.settle build))) := by
  unfold decodeOperandMember
  rw [found]
  cases operand? with
  | none => exact answers_pure _
  | some operand =>
      have answers : (decodeOperand operand.encode >>= fun read => pure (some read)).Answers build
          (.ok (some (operand.settle build))) :=
        (answers_decodeOperand compiles).bind (answers_pure _)
      cases operand <;> exact answers

/-- An attribute test that was written is read settled, unless its operand is missing. -/
theorem answers_decodeAttribute (path : String) (operator? : Option Operator)
    (operand? : Option Operand) (subject : Bool)
    (compiles : (NodeTest.attribute path operator? operand?).PatternCompiles build) :
    (decodeAttribute (taggedMembers .attribute
      (NodeTest.attribute path operator? operand?).encode subject)).Answers build
      (unlessMissing (NodeTest.attribute path operator? operand?).missingOperand?
        ((NodeTest.attribute path operator? operand?).settle build)) := by
  let members := (NodeTest.attribute path operator? operand?).encode
  have nameFound : Json.lookup? "name" (taggedMembers .attribute members subject) =
      some (.string path) := by
    rw [lookup?_taggedMembers (by decide) (by decide)]
    rfl
  have operatorFound : Json.lookup? "operator" (taggedMembers .attribute members subject) =
      operator?.map fun operator => .string operator.text := by
    rw [lookup?_taggedMembers (by decide) (by decide)]
    cases operator? <;> cases operand? <;> rfl
  have valueFound : Json.lookup? "value" (taggedMembers .attribute members subject) =
      operand?.map Operand.encode := by
    rw [lookup?_taggedMembers (by decide) (by decide)]
    cases operator? <;> cases operand? <;> rfl
  rw [decodeAttribute_eq]
  refine (answers_requiredText nameFound "attribute").bind ?_
  refine (answers_decodeOperator operatorFound).bind ?_
  refine (answers_decodeOperandMember valueFound compiles).bind ?_
  cases operator? with
  | none => exact answers_pure _
  | some operator =>
      cases operand? with
      | none => exact answers_throw _
      | some operand => exact answers_pure _

/-! ## Selectors -/

/-- The path of the first attribute test of several that has an operator but no operand. -/
def firstMissing? (tests : List NodeTest) : Option String :=
  tests.findSome? NodeTest.missingOperand?

theorem firstMissing?_append (before after : List NodeTest) :
    firstMissing? (before ++ after) = (firstMissing? before).or (firstMissing? after) :=
  List.findSome?_append

theorem firstMissing?_singleton (test : NodeTest) :
    firstMissing? [test] = test.missingOperand? := by
  unfold firstMissing?
  rw [List.findSome?_cons]
  cases test.missingOperand? <;> rfl

theorem isNull_encode (selector : Selector) : isNull selector.encode = false := by
  cases selector with
  | place edge index of? subject => cases of? <;> rfl
  | _ => rfl

theorem answers_decodePart {key : String} {members : Members} {selector read : Selector}
    {missing? : Option String} (found : Json.lookup? key members = some selector.encode)
    (answers : (decode selector.encode).Answers build (unlessMissing missing? read)) :
    (decodePart key members).Answers build (unlessMissing missing? (some read)) := by
  rw [decodePart_eq, found]
  dsimp only
  rw [isNull_encode, if_neg Bool.false_ne_true]
  exact answers.bind_complete (answers_pure _)

theorem answers_indexMember {members : Members} {index : Nat}
    (found : Json.lookup? "index" members = some (encodeIndex index)) (kind : String) :
    (indexMember kind members).Answers build (.ok index) := by
  unfold indexMember
  rw [found]
  exact answers_pure index

theorem lookup?_subject_encode : ∀ test : NodeTest, Json.lookup? "subject" test.encode = none
  | .wildcard => rfl
  | .identifier _ => rfl
  | .field _ => rfl
  | .attribute _ operator? operand? => by cases operator? <;> cases operand? <;> rfl

theorem answers_single (test : NodeTest) (subject : Bool) (compiles : test.PatternCompiles build) :
    (decode (Selector.single test subject).encode).Answers build
      (unlessMissing test.missingOperand? (.single (test.settle build) subject)) := by
  rw [encode, decode_tagged (lookup?_subject_encode test)]
  cases test with
  | wildcard => exact answers_pure _
  | identifier value => exact (answers_requiredText rfl _).bind (answers_pure _)
  | field path => exact (answers_requiredText rfl _).bind (answers_pure _)
  | «attribute» path operator? operand? =>
      exact (answers_decodeAttribute path operator? operand? subject compiles).bind_complete
        (answers_pure _)

mutual

/-- A selector that was written is read settled, unless an operand is missing: then reading is
refused for the first missing one. -/
theorem answers_decode_encode : ∀ selector : Selector,
    (∀ test ∈ selector.tests, test.PatternCompiles build) →
    (decode selector.encode).Answers build
      (unlessMissing (firstMissing? selector.tests) (selector.settle build))
  | .single test subject, compiles => by
      have answers := answers_single test subject (compiles test List.mem_cons_self)
      rwa [← firstMissing?_singleton] at answers
  | .group grouping members subject, compiles => by
      rw [encode, decode_tagged rfl, settle, tests]
      refine Answers.bind_complete ?_ (answers_pure _)
      rw [decodeList_eq, lookup?_taggedMembers (by decide) (by decide)]
      exact answers_decodeAll members compiles
  | .relation combinator left right subject, compiles => by
      rw [tests, List.forall_mem_append] at compiles
      rw [encode, decode_tagged rfl, settle, tests, firstMissing?_append]
      have leftFound : Json.lookup? "left" (taggedMembers (.relation combinator)
          [("left", left.encode), ("right", right.encode)] subject) = some left.encode := by
        rw [lookup?_taggedMembers (by decide) (by decide)]
        rfl
      have rightFound : Json.lookup? "right" (taggedMembers (.relation combinator)
          [("left", left.encode), ("right", right.encode)] subject) = some right.encode := by
        rw [lookup?_taggedMembers (by decide) (by decide)]
        rfl
      have leftAnswers := answers_decodePart leftFound (answers_decode_encode left compiles.1)
      have rightAnswers := answers_decodePart rightFound (answers_decode_encode right compiles.2)
      refine leftAnswers.bind_unlessMissing ?_
      refine Answers.bind (answers_pure (left.settle build)) ?_
      refine rightAnswers.bind_complete ?_
      exact Answers.bind (answers_pure (right.settle build)) (answers_pure _)
  | .place edge index none subject, compiles => by
      rw [encode, decode_tagged rfl, settle]
      refine (answers_indexMember rfl _).bind ?_
      rw [decodePart_eq, lookup?_taggedMembers (by decide) (by decide)]
      exact Answers.bind (answers_pure none) (answers_pure _)
  | .place edge index (some inner) subject, compiles => by
      rw [encode, decode_tagged rfl, settle]
      refine (answers_indexMember rfl _).bind ?_
      have innerFound : Json.lookup? "right" (taggedMembers (.place edge)
          [("index", encodeIndex index), ("right", inner.encode)] subject) = some inner.encode := by
        rw [lookup?_taggedMembers (by decide) (by decide)]
        rfl
      exact (answers_decodePart innerFound (answers_decode_encode inner compiles)).bind_complete
        (answers_pure _)

theorem answers_decodeAll : ∀ members : List Selector,
    (∀ test ∈ allTests members, test.PatternCompiles build) →
    (decodeAll (encodeAll members)).Answers build
      (unlessMissing (firstMissing? (allTests members)) (settleAll build members))
  | [], _ => answers_pure _
  | first :: rest, compiles => by
      rw [allTests, List.forall_mem_append] at compiles
      rw [encodeAll, decodeAll, settleAll, allTests, firstMissing?_append]
      refine (answers_decode_encode first compiles.1).bind_unlessMissing ?_
      exact (answers_decodeAll rest compiles.2).bind_complete (answers_pure _)

end

end Selector

end SyntaxQuery
