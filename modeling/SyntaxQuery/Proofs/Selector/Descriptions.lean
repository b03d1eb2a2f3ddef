import Mathlib.Data.List.Forall2
import SyntaxQuery.Proofs.Selector.Transparency

/-!
Contract: the objects that describe selectors.

`Reads` says that a value decodes to a selector on every sound store. An object that reads as a
selector has the tag of the selector's shape, and under the keys of that shape the values that read
as the selector's parts (`describes_of_reads`). So a property of all values that are read needs one
case for each shape, and none for the order in which the members are decoded.

Does not own: values that are refused.
-/

namespace SyntaxQuery

namespace Decoder

variable {α β : Type} {build : Regex.Builder}

theorem Answers.unique {decoder : Decoder α} {answer other : Except SelectorError α}
    (answers : decoder.Answers build answer) (otherAnswers : decoder.Answers build other) :
    answer = other := by
  rw [← (answers _ RegexCache.sound_empty).1, (otherAnswers _ RegexCache.sound_empty).1]

/-- A sequence that succeeds succeeds in both steps. -/
theorem Answers.of_bind {first : Decoder α} {next : α → Decoder β} {result : β}
    (answers : (first >>= next).Answers build (.ok result)) (firstSteady : first.Steady build)
    (nextSteady : ∀ value, (next value).Steady build) :
    ∃ value, first.Answers build (.ok value) ∧ (next value).Answers build (.ok result) := by
  obtain ⟨found, firstAnswers⟩ := firstSteady
  cases found with
  | error error => cases answers.unique (firstAnswers.bind_error next)
  | ok value =>
      obtain ⟨later, nextAnswers⟩ := nextSteady value
      cases answers.unique (firstAnswers.bind nextAnswers)
      exact ⟨value, firstAnswers, nextAnswers⟩

/-- Steps that cannot fail after the first pass its error on. -/
theorem Answers.bind_map {first : Decoder α} {next : α → Decoder β}
    {answer : Except SelectorError α} {result : α → β} (firstAnswers : first.Answers build answer)
    (nextAnswers : ∀ value, (next value).Answers build (.ok (result value))) :
    (first >>= next).Answers build (answer.map result) := by
  cases answer with
  | error error => exact firstAnswers.bind_error next
  | ok value => exact firstAnswers.bind (nextAnswers value)

theorem Answers.map_bind_map {γ : Type} {first : Decoder β} {next : β → Decoder γ}
    {answer : Except SelectorError α} {found : α → β} {result : α → γ}
    (firstAnswers : first.Answers build (answer.map found))
    (nextAnswers : ∀ value, (next (found value)).Answers build (.ok (result value))) :
    (first >>= next).Answers build (answer.map result) := by
  cases answer with
  | error error => exact firstAnswers.bind_error next
  | ok value => exact firstAnswers.bind (nextAnswers value)

theorem Answers.eq_of_pure {value result : α}
    (answers : (pure value : Decoder α).Answers build (.ok result)) : value = result := by
  cases (answers_pure value).unique answers
  rfl

theorem Answers.not_throw {error : SelectorError} {result : α}
    (answers : (throw error : Decoder α).Answers build (.ok result)) : False := by
  cases (answers_throw error).unique answers

end Decoder

/-- A shape that a tag reads as has that tag. -/
theorem Shape.tag_of_ofTag? {tag : String} {shape : Shape} (found : ofTag? tag = some shape) :
    shape.tag = tag := by
  have same := List.find?_some found
  exact eq_of_beq same

theorem Shape.tag_mem_selectorTags (shape : Shape) : shape.tag ∈ selectorTags := by
  apply List.mem_map_of_mem
  exact List.mem_of_find?_eq_some (ofTag?_tag shape)

namespace Selector

open Decoder

variable {build : Regex.Builder}

/-- The value decodes to the selector on every sound store of a library. -/
def Reads (build : Regex.Builder) (value : Json) (selector : Selector) : Prop :=
  (decode value).Answers build (.ok selector)

theorem Reads.after_calls {value : Json} {selector : Selector} (reads : Reads build value selector)
    (calls : List RegexCache.Call) :
    decodedAfter build calls value = .ok selector :=
  decodedAfter_of_answers reads calls

theorem Reads.isObject {value : Json} {selector : Selector} (reads : Reads build value selector) :
    ∃ members, value = .object members := by
  cases value with
  | object members => exact ⟨members, rfl⟩
  | _ => exact reads.not_throw.elim

theorem Reads.isNull_eq_false {value : Json} {selector : Selector}
    (reads : Reads build value selector) : isNull value = false := by
  obtain ⟨members, rfl⟩ := reads.isObject
  rfl

theorem decode_of_tagged {members : Members} {shape : Shape}
    (tagged : Json.lookup? "type" members = some (.string shape.tag)) :
    decode (.object members) =
      decodeShape shape.tag members (subjectMember members) shape := by
  rw [decode_object, tagged, Option.bind_some, Json.string?]
  dsimp only
  rw [Shape.ofTag?_tag]

/-- The parts of an object that reads as a selector. -/
inductive Describes (build : Regex.Builder) (members : Members) : Selector → Prop where
  | single {test : NodeTest}
      (tagged : Json.lookup? "type" members = some (.string test.shape.tag))
      (answers : (decodeShape test.shape.tag members (subjectMember members)
        test.shape).Answers build (.ok (.single test (subjectMember members)))) :
      Describes build members (.single test (subjectMember members))
  | group {grouping : Grouping} {items : List Json} {parts : List Selector}
      (tagged : Json.lookup? "type" members = some (.string (Shape.group grouping).tag))
      (listed : Json.lookup? "selectors" members = some (.array items))
      (each : List.Forall₂ (Reads build) items parts) :
      Describes build members (.group grouping parts (subjectMember members))
  | relation {combinator : Combinator} {leftValue rightValue : Json} {left right : Selector}
      (tagged : Json.lookup? "type" members = some (.string (Shape.relation combinator).tag))
      (leftFound : Json.lookup? "left" members = some leftValue)
      (leftReads : Reads build leftValue left)
      (rightFound : Json.lookup? "right" members = some rightValue)
      (rightReads : Reads build rightValue right) :
      Describes build members (.relation combinator left right (subjectMember members))
  | place {edge : Edge} {index : Nat}
      (tagged : Json.lookup? "type" members = some (.string (Shape.place edge).tag))
      (indexed : (indexMember (Shape.place edge).tag members).Answers build (.ok index))
      (alone : ∀ value, Json.lookup? "right" members = some value → value = .null) :
      Describes build members (.place edge index none (subjectMember members))
  | placeOf {edge : Edge} {index : Nat} {innerValue : Json} {inner : Selector}
      (tagged : Json.lookup? "type" members = some (.string (Shape.place edge).tag))
      (indexed : (indexMember (Shape.place edge).tag members).Answers build (.ok index))
      (innerFound : Json.lookup? "right" members = some innerValue)
      (innerReads : Reads build innerValue inner) :
      Describes build members (.place edge index (some inner) (subjectMember members))

/-! ## Steadiness of the parts -/

theorem unclashing_member {members : Members} {key : String} {value : Json}
    (unclashing : Unclashing build (partRequests key members))
    (found : Json.lookup? key members = some value) : Unclashing build (requests value) := by
  rwa [partRequests_eq, found] at unclashing

theorem steady_part {members : Members} {key : String}
    (unclashing : Unclashing build (partRequests key members)) :
    (decodePart key members).Steady build :=
  steady_decodePart fun value found => steady_decode value (unclashing_member unclashing found)

theorem isNull_iff {value : Json} : isNull value = true ↔ value = .null := by
  cases value <;> simp [isNull]

theorem reads_of_decodePart {members : Members} {key : String} {selector : Selector}
    (unclashing : Unclashing build (partRequests key members))
    (answers : (decodePart key members).Answers build (.ok (some selector))) :
    ∃ value, Json.lookup? key members = some value ∧ Reads build value selector := by
  rw [decodePart_eq] at answers
  split at answers
  · cases answers.eq_of_pure
  · next value found =>
      split at answers
      · cases answers.eq_of_pure
      · obtain ⟨read, reads, kept⟩ := answers.of_bind
          (steady_decode value (unclashing_member unclashing found)) fun _ => steady_pure _
        cases kept.eq_of_pure
        exact ⟨value, found, reads⟩

theorem alone_of_decodePart {members : Members} {key : String}
    (unclashing : Unclashing build (partRequests key members))
    (answers : (decodePart key members).Answers build (.ok none)) (value : Json)
    (found : Json.lookup? key members = some value) : value = .null := by
  by_contra notNull
  rw [decodePart_eq, found] at answers
  dsimp only at answers
  rw [if_neg (mt isNull_iff.mp notNull)] at answers
  obtain ⟨read, _, kept⟩ := answers.of_bind
    (steady_decode value (unclashing_member unclashing found)) fun _ => steady_pure _
  cases kept.eq_of_pure

/-- The selector under a key that a shape requires. -/
def decodeRequired (kind key : String) (members : Members) : Decoder Selector :=
  decodePart key members >>= requirePart kind key

theorem decodeShape_relation (tag : String) (members : Members) (subject : Bool)
    (combinator : Combinator) :
    decodeShape tag members subject (.relation combinator) = (do
      let left ← decodeRequired tag "left" members
      let right ← decodeRequired tag "right" members
      pure (.relation combinator left right subject)) := by
  simp only [decodeShape, decodeRequired, bind_assoc]

theorem steady_decodeRequired {members : Members} {key : String}
    (unclashing : Unclashing build (partRequests key members)) (kind : String) :
    (decodeRequired kind key members).Steady build :=
  (steady_part unclashing).bind fun part? => steady_requirePart kind key part?

theorem reads_of_decodeRequired {members : Members} {kind key : String} {selector : Selector}
    (unclashing : Unclashing build (partRequests key members))
    (answers : (decodeRequired kind key members).Answers build (.ok selector)) :
    ∃ value, Json.lookup? key members = some value ∧ Reads build value selector := by
  obtain ⟨part?, found, required⟩ :=
    answers.of_bind (steady_part unclashing) (steady_requirePart kind key)
  cases part? with
  | none => exact required.not_throw.elim
  | some part =>
      cases required.eq_of_pure
      exact reads_of_decodePart unclashing found

theorem steady_items {items : List Json} (unclashing : Unclashing build (allRequests items)) :
    (decodeAll items).Steady build := by
  apply steady_decodeAll
  intro item isItem
  exact steady_decode item (unclashing_of_allRequests unclashing isItem)

theorem forall₂_reads_of_decodeAll {items : List Json} {parts : List Selector}
    (unclashing : Unclashing build (allRequests items))
    (answers : (decodeAll items).Answers build (.ok parts)) :
    List.Forall₂ (Reads build) items parts := by
  induction items generalizing parts with
  | nil =>
      cases answers.eq_of_pure
      exact .nil
  | cons item rest inductionHypothesis =>
      rw [allRequests, unclashing_append] at unclashing
      obtain ⟨itemUnclashing, restUnclashing⟩ := unclashing
      rw [decodeAll] at answers
      obtain ⟨first, firstReads, later⟩ := answers.of_bind (steady_decode item itemUnclashing)
        fun _ => (steady_items restUnclashing).bind fun _ => steady_pure _
      obtain ⟨others, othersRead, kept⟩ :=
        later.of_bind (steady_items restUnclashing) fun _ => steady_pure _
      cases kept.eq_of_pure
      exact .cons firstReads (inductionHypothesis restUnclashing othersRead)

/-- An attribute test that is read has the operand that is read. -/
theorem operand_of_decodeAttribute {members : Members} {test : NodeTest}
    (unclashing : Unclashing build (attributeRequests members))
    (answers : (decodeAttribute members).Answers build (.ok test)) :
    ∃ path operator? operand?, test = .attribute path operator? operand? ∧
      (decodeOperandMember members).Answers build (.ok operand?) := by
  have finishSteady (path : String) (operator? : Option Operator) (operand? : Option Operand) :
      (if operator?.isSome ∧ operand?.isNone then throw (.operatorWithoutOperand path)
        else pure (.attribute path operator? operand?) : Decoder NodeTest).Steady build := by
    split
    · exact steady_throw _
    · exact steady_pure _
  have operandSteady := steady_decodeOperandMember members unclashing
  rw [decodeAttribute_eq] at answers
  obtain ⟨path, _, answers⟩ := answers.of_bind (steady_requiredText _ _ _) fun path =>
    (steady_decodeOperator members).bind fun operator? =>
      operandSteady.bind (finishSteady path operator?)
  obtain ⟨operator?, _, answers⟩ := answers.of_bind (steady_decodeOperator members)
    fun operator? => operandSteady.bind (finishSteady path operator?)
  obtain ⟨operand?, operandRead, answers⟩ :=
    answers.of_bind operandSteady (finishSteady path operator?)
  split at answers
  · exact answers.not_throw.elim
  · exact ⟨path, operator?, operand?, answers.eq_of_pure.symm, operandRead⟩

/-! ## The parts of what is read -/

theorem describes_of_decodeShape {members : Members} {shape : Shape} {selector : Selector}
    (tagged : Json.lookup? "type" members = some (.string shape.tag))
    (unclashing : Unclashing build (shapeRequests members shape))
    (answers : (decodeShape shape.tag members (subjectMember members) shape).Answers build
      (.ok selector)) : Describes build members selector := by
  cases shape with
  | wildcard =>
      cases answers.eq_of_pure
      exact .single tagged answers
  | identifier =>
      obtain ⟨value, _, kept⟩ :=
        answers.of_bind (steady_requiredText _ _ _) fun _ => steady_pure _
      cases kept.eq_of_pure
      exact .single tagged answers
  | field =>
      obtain ⟨path, _, kept⟩ :=
        answers.of_bind (steady_requiredText _ _ _) fun _ => steady_pure _
      cases kept.eq_of_pure
      exact .single tagged answers
  | «attribute» =>
      obtain ⟨test, testRead, kept⟩ :=
        answers.of_bind (steady_decodeAttribute members unclashing) fun _ => steady_pure _
      cases kept.eq_of_pure
      obtain ⟨path, operator?, operand?, rfl, _⟩ := operand_of_decodeAttribute unclashing testRead
      exact .single tagged answers
  | group grouping =>
      rw [decodeShape, decodeList_eq] at answers
      rw [shapeRequests, listRequests_eq] at unclashing
      split at answers
      · next items listed =>
          rw [listed] at unclashing
          obtain ⟨parts, partsRead, kept⟩ :=
            answers.of_bind (steady_items unclashing) fun _ => steady_pure _
          cases kept.eq_of_pure
          exact .group tagged listed (forall₂_reads_of_decodeAll unclashing partsRead)
      · cases answers.unique (Answers.bind_error (answers_throw _) _)
  | relation combinator =>
      obtain ⟨leftUnclashing, rightUnclashing⟩ := unclashing_append.mp unclashing
      rw [decodeShape_relation] at answers
      obtain ⟨left, leftRead, answers⟩ :=
        answers.of_bind (steady_decodeRequired leftUnclashing _) fun _ =>
          (steady_decodeRequired rightUnclashing _).bind fun _ => steady_pure _
      obtain ⟨right, rightRead, kept⟩ :=
        answers.of_bind (steady_decodeRequired rightUnclashing _) fun _ => steady_pure _
      cases kept.eq_of_pure
      obtain ⟨leftValue, leftFound, leftReads⟩ := reads_of_decodeRequired leftUnclashing leftRead
      obtain ⟨rightValue, rightFound, rightReads⟩ :=
        reads_of_decodeRequired rightUnclashing rightRead
      exact .relation tagged leftFound leftReads rightFound rightReads
  | place edge =>
      obtain ⟨index, indexed, answers⟩ := answers.of_bind (steady_indexMember _ members)
        fun _ => (steady_part unclashing).bind fun _ => steady_pure _
      obtain ⟨of?, partRead, kept⟩ :=
        answers.of_bind (steady_part unclashing) fun _ => steady_pure _
      cases kept.eq_of_pure
      cases of? with
      | none => exact .place tagged indexed (alone_of_decodePart unclashing partRead)
      | some inner =>
          obtain ⟨innerValue, innerFound, innerReads⟩ := reads_of_decodePart unclashing partRead
          exact .placeOf tagged indexed innerFound innerReads

/-- An object that reads as a selector has the tag and the parts of that selector. -/
theorem describes_of_reads {members : Members} {selector : Selector}
    (unclashing : Unclashing build (requests (.object members)))
    (reads : Reads build (.object members) selector) : Describes build members selector := by
  rw [Reads, decode_object] at reads
  rw [requests_object] at unclashing
  split at reads
  · exact reads.not_throw.elim
  · next tag tagFound =>
      rw [tagFound, Option.bind_some] at unclashing
      split at reads
      · exact reads.not_throw.elim
      · next shape shapeFound =>
          rw [shapeFound] at unclashing
          obtain rfl := Shape.tag_of_ofTag? shapeFound
          refine describes_of_decodeShape ?_ unclashing reads
          obtain ⟨value, found, isString⟩ := Option.bind_eq_some_iff.mp tagFound
          cases value <;> cases isString
          exact found

end Selector

end SyntaxQuery
