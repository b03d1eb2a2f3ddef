import SyntaxQuery.Proofs.Selector.Acceptance
import SyntaxQuery.Proofs.Selector.Replacement
import SyntaxQuery.Proofs.Selector.Written

/-!
Contract: what a value that is read says of the parts of its selector.

Every part is read from the value at its position. So the patterns of the selector compile, its
indices are in the range of integers, and no part but a place is written deeper than it was read: an
index is written as an object, and may be read alone.

Does not own: reading what was written.
-/

namespace SyntaxQuery.Selector

open Decoder

variable {build : Regex.Builder}

/-! ## Tests by their positions -/

theorem allTests_eq_flatMap (members : List Selector) :
    allTests members = members.flatMap tests := by
  induction members with
  | nil => rfl
  | cons first rest inductionHypothesis =>
      rw [allTests, inductionHypothesis, List.flatMap_cons]

/-- A test is that of the selector itself or in a part directly below it. -/
theorem single_or_part_of_mem_tests {selector : Selector} {test : NodeTest}
    (isTest : test ∈ selector.tests) :
    (∃ subject, selector = .single test subject) ∨
      ∃ branch part, selector.part? branch = some part ∧ test ∈ part.tests := by
  cases selector with
  | single own subject =>
      rw [List.mem_singleton.mp isTest]
      exact .inl ⟨subject, rfl⟩
  | group grouping members subject =>
      right
      rw [tests, allTests_eq_flatMap] at isTest
      obtain ⟨part, isMember, inPart⟩ := List.mem_flatMap.mp isTest
      obtain ⟨index, found⟩ := List.mem_iff_getElem?.mp isMember
      exact ⟨.member index, part, found, inPart⟩
  | relation combinator left right subject =>
      right
      rcases List.mem_append.mp isTest with inLeft | inRight
      · exact ⟨.left, left, rfl, inLeft⟩
      · exact ⟨.right, right, rfl, inRight⟩
  | place edge index of? subject =>
      right
      cases of? with
      | none => cases isTest
      | some inner => exact ⟨.inner, inner, rfl, isTest⟩

theorem exists_at_of_mem_tests {selector : Selector} {test : NodeTest}
    (isTest : test ∈ selector.tests) :
    ∃ position subject, selector.at? position = some (.single test subject) := by
  induction selector using part_induction with
  | step selector inductionHypothesis =>
      rcases single_or_part_of_mem_tests isTest with ⟨subject, rfl⟩ | ⟨branch, part, found, inPart⟩
      · exact ⟨[], subject, rfl⟩
      · obtain ⟨rest, subject, atRest⟩ := inductionHypothesis branch part found inPart
        exact ⟨branch :: rest, subject, by rw [at?_cons found, atRest]⟩

/-! ## Values at positions -/

theorem isRepresentable_valuePart {value part : Json} {branch : Branch}
    (representable : value.IsRepresentable) (found : valuePart? value branch = some part) :
    part.IsRepresentable := by
  obtain ⟨members, shape, rfl, partOf⟩ := partOf_of_valuePart? found
  cases partOf with
  | member listed atIndex =>
      exact (representable.member listed).item (List.mem_of_getElem? atIndex)
  | left leftFound => exact representable.member leftFound
  | right rightFound => exact representable.member rightFound
  | inner innerFound _ => exact representable.member innerFound

theorem nesting_valuePart {value part : Json} {branch : Branch}
    (found : valuePart? value branch = some part) :
    branch.depth + part.nesting ≤ value.nesting := by
  obtain ⟨members, shape, rfl, partOf⟩ := partOf_of_valuePart? found
  cases partOf with
  | member listed atIndex =>
      have inArray := Json.nesting_item_lt (List.mem_of_getElem? atIndex)
      have inObject := Json.nesting_member_lt listed
      show 2 + part.nesting ≤ _
      omega
  | left leftFound =>
      have inObject := Json.nesting_member_lt leftFound
      show 1 + part.nesting ≤ _
      omega
  | right rightFound =>
      have inObject := Json.nesting_member_lt rightFound
      show 1 + part.nesting ≤ _
      omega
  | inner innerFound _ =>
      have inObject := Json.nesting_member_lt innerFound
      show 1 + part.nesting ≤ _
      omega

theorem nesting_valueAt {value part : Json} {position : List Branch}
    (found : valueAt? value position = some part) :
    depth position + part.nesting ≤ value.nesting := by
  induction position generalizing value with
  | nil =>
      cases found
      rw [depth, Nat.zero_add]
  | cons branch rest inductionHypothesis =>
      obtain ⟨below, belowFound, partFound⟩ := Option.bind_eq_some_iff.mp found
      have within := nesting_valuePart belowFound
      have belowWithin := inductionHypothesis partFound
      rw [depth]
      omega

/-- At every position of the selector there is a value that reads as the part. -/
theorem Reads.exists_value {value : Json} {selector part : Selector}
    (reads : Reads build value selector) (unclashing : Unclashing build (requests value))
    {position : List Branch}
    (found : selector.at? position = some part) :
    ∃ partValue, valueAt? value position = some partValue ∧ Reads build partValue part ∧
      Unclashing build (requests partValue) := by
  have related := reads.rel_positions unclashing position
  rw [found] at related
  generalize valueFound : valueAt? value position = value? at related
  cases related with
  | some partReads => exact ⟨_, rfl, partReads, unclashing_at unclashing valueFound⟩

/-! ## Operands -/

theorem operand_of_decodeOperandMember {members : Members} {operand : Operand}
    (unclashing : Unclashing build (attributeRequests members))
    (answers : (decodeOperandMember members).Answers build (.ok (some operand))) :
    ∃ value, Json.lookup? "value" members = some value ∧ Unclashing build (operandRequests value) ∧
      (decodeOperand value).Answers build (.ok operand) := by
  unfold attributeRequests at unclashing
  unfold decodeOperandMember at answers
  split at answers
  · cases answers.eq_of_pure
  · cases answers.eq_of_pure
  · next value _ found =>
      rw [found] at unclashing
      obtain ⟨read, operandRead, kept⟩ := answers.of_bind (steady_decodeOperand value unclashing)
        fun _ => steady_pure _
      cases kept.eq_of_pure
      exact ⟨value, found, unclashing, operandRead⟩

/-- The operand of a test that is read is read from the object under its key. -/
theorem Reads.operand {members : Members} {path : String} {operator? : Option Operator}
    {operand : Operand} {subject : Bool}
    (reads : Reads build (.object members)
      (.single (.attribute path operator? (some operand)) subject))
    (unclashing : Unclashing build (requests (.object members))) :
    ∃ value, Json.lookup? "value" members = some value ∧ Unclashing build (operandRequests value) ∧
      (decodeOperand value).Answers build (.ok operand) := by
  cases describes_of_reads unclashing reads with
  | single tagged answers =>
      have requested : Unclashing build (attributeRequests members) := by
        rw [requests_object, ← shapeOf?, shapeOf?_of_tagged tagged] at unclashing
        exact unclashing
      obtain ⟨test, testRead, kept⟩ :=
        answers.of_bind (steady_decodeAttribute members requested) fun _ => steady_pure _
      cases kept.eq_of_pure
      obtain ⟨_, _, _, same, operandRead⟩ := operand_of_decodeAttribute requested testRead
      cases same
      exact operand_of_decodeOperandMember requested operandRead

theorem compiles_of_pattern {source options : String} {compiled : Pattern}
    (unclashing : ¬ RegexCache.Clashes build source options)
    (answers : (Decoder.pattern source options).Answers build (.ok compiled)) :
    ∃ regex, RegexCache.empty.answer build compiled.source compiled.options = .ok regex := by
  have same := (answers_pattern unclashing).unique answers
  cases outcome : Regex.compile build source options with
  | error fault =>
      rw [outcome] at same
      cases same
  | ok regex =>
      rw [outcome] at same
      cases same
      exact ⟨regex, by rw [RegexCache.answer_empty, outcome]⟩

theorem compiles_of_decodePattern {members : Members} {value : Json} {compiled : Pattern}
    (unclashing : Unclashing build (patternRequests members value))
    (answers : (decodePattern members value).Answers build (.ok compiled)) :
    ∃ regex, RegexCache.empty.answer build compiled.source compiled.options = .ok regex := by
  cases value with
  | string source => exact compiles_of_pattern (unclashing _ List.mem_cons_self) answers
  | object inner =>
      rw [decodePattern] at answers
      rw [patternRequests] at unclashing
      split at answers
      · next source found =>
          rw [found] at unclashing
          exact compiles_of_pattern (unclashing _ List.mem_cons_self) answers
      · exact answers.not_throw.elim
  | _ => exact answers.not_throw.elim

/-- A pattern that is read compiles. -/
theorem compiles_of_decodeOperand {value : Json} {compiled : Pattern}
    (unclashing : Unclashing build (operandRequests value))
    (answers : (decodeOperand value).Answers build (.ok (.pattern compiled))) :
    ∃ regex, RegexCache.empty.answer build compiled.source compiled.options = .ok regex := by
  cases value with
  | object members =>
      rw [decodeOperand] at answers
      rw [operandRequests] at unclashing
      split at answers
      · exact answers.not_throw.elim
      · next tag found =>
          split at answers
          · next isPattern =>
              rw [found, isPattern, if_pos rfl] at unclashing
              obtain ⟨read, patternRead, kept⟩ := answers.of_bind
                (steady_decodePattern members _ unclashing) fun _ => steady_pure _
              cases kept.eq_of_pure
              exact compiles_of_decodePattern unclashing patternRead
          · split at answers
            · obtain ⟨read, _, kept⟩ :=
                answers.of_bind (steady_decodeLiteral _) fun _ => steady_pure _
              cases kept.eq_of_pure
            · split at answers
              · split at answers
                · cases answers.eq_of_pure
                · exact answers.not_throw.elim
              · exact answers.not_throw.elim
  | _ => exact answers.not_throw.elim

/-- Every pattern of a selector that is read compiles. -/
theorem Reads.patternsCompile {value : Json} {selector : Selector}
    (reads : Reads build value selector) (unclashing : Unclashing build (requests value)) :
    selector.PatternsCompile build := by
  intro test isTest
  obtain ⟨position, subject, found⟩ := exists_at_of_mem_tests isTest
  obtain ⟨testValue, _, testReads, testUnclashing⟩ := reads.exists_value unclashing found
  obtain ⟨members, rfl⟩ := testReads.isObject
  cases test with
  | «attribute» path operator? operand? =>
      cases operand? with
      | none => trivial
      | some operand =>
          cases operand with
          | pattern compiled =>
              obtain ⟨operandValue, _, requested, operandRead⟩ := testReads.operand testUnclashing
              exact compiles_of_decodeOperand requested operandRead
          | _ => trivial
  | _ => trivial

/-! ## Indices -/

theorem index_lt_of_nat? {value : Json} (representable : value.IsRepresentable) {index : Nat}
    (found : value.nat? = some index) : index < 2 ^ 64 := by
  cases value with
  | number number =>
      have inRange := representable number List.mem_cons_self
      cases number with
      | integer written =>
          cases written with
          | ofNat natural =>
              cases found
              have upper : (index : Int) < 2 ^ 64 := inRange.2
              omega
          | negSucc _ => cases found
      | double _ => cases found
  | _ => cases found

theorem index_lt_of_indexMember {members : Members}
    (representable : (Json.object members).IsRepresentable) {kind : String} {index : Nat}
    (answers : (indexMember kind members).Answers build (.ok index)) : index < 2 ^ 64 := by
  unfold indexMember at answers
  split at answers
  · exact answers.not_throw.elim
  · next held found =>
      have heldRepresentable := representable.member found
      dsimp only at answers
      split at answers
      · next read isNatural =>
          cases answers.eq_of_pure
          obtain ⟨number, numberFound, isNumber⟩ := Option.bind_eq_some_iff.mp isNatural
          refine index_lt_of_nat? ?_ isNumber
          split at numberFound
          · exact heldRepresentable.member numberFound
          · cases numberFound
            exact heldRepresentable
      · exact answers.not_throw.elim

/-- The indices of the places of a selector that is read fit into 64 bits. -/
theorem Reads.index_lt {value : Json} {selector : Selector} (reads : Reads build value selector)
    (unclashing : Unclashing build (requests value)) (representable : value.IsRepresentable)
    {position : List Branch} {edge : Edge} {index : Nat} {of? : Option Selector} {subject : Bool}
    (found : selector.at? position = some (.place edge index of? subject)) : index < 2 ^ 64 := by
  obtain ⟨placeValue, valueFound, placeReads, placeUnclashing⟩ :=
    reads.exists_value unclashing found
  have placeRepresentable := holds_at isRepresentable_valuePart representable valueFound
  obtain ⟨members, rfl⟩ := placeReads.isObject
  cases describes_of_reads placeUnclashing placeReads with
  | place _ indexed _ => exact index_lt_of_indexMember placeRepresentable indexed
  | placeOf _ indexed _ _ => exact index_lt_of_indexMember placeRepresentable indexed

/-! ## Nesting -/

theorem isObject_of_decodeOperand {value : Json} {operand : Operand}
    (answers : (decodeOperand value).Answers build (.ok operand)) :
    ∃ members, value = .object members := by
  cases value with
  | object members => exact ⟨members, rfl⟩
  | _ => exact answers.not_throw.elim

/-- A part is written with as many containers of its own as it was read from; only the index of a
place may be in one more. -/
theorem Reads.ownNesting_le {value : Json} {selector : Selector}
    (reads : Reads build value selector) (unclashing : Unclashing build (requests value)) :
    selector.ownNesting ≤ value.nesting ∨
      (∃ edge index of? subject, selector = .place edge index of? subject) ∧ 1 ≤ value.nesting := by
  obtain ⟨members, rfl⟩ := reads.isObject
  have one : 1 ≤ (Json.object members).nesting := by
    rw [Json.nesting]
    omega
  have describes := describes_of_reads unclashing reads
  cases describes with
  | @single test tagged answers =>
      left
      cases test with
      | «attribute» path operator? operand? =>
          cases operand? with
          | none => exact one
          | some operand =>
              obtain ⟨operandValue, found, _, operandRead⟩ := reads.operand unclashing
              obtain ⟨inner, rfl⟩ := isObject_of_decodeOperand operandRead
              have inObject := Json.nesting_member_lt found
              rw [Json.nesting] at inObject
              show 2 ≤ _
              omega
      | _ => exact one
  | group tagged listed each =>
      left
      have inObject := Json.nesting_member_lt listed
      rw [Json.nesting] at inObject
      show 2 ≤ _
      omega
  | relation => exact .inl one
  | place => exact .inr ⟨⟨_, _, _, _, rfl⟩, one⟩
  | placeOf => exact .inr ⟨⟨_, _, _, _, rfl⟩, one⟩

/-- The selector has a place in so many containers. -/
def HasPlaceIn (level : Nat) (selector : Selector) : Prop :=
  ∃ position edge index of? subject,
    selector.at? position = some (.place edge index of? subject) ∧ depth position = level

/-- What was read within a bound is written within it, unless the object of a place is the last
container within the bound. -/
theorem Reads.nesting_encode_le_iff {value : Json} {selector : Selector}
    (reads : Reads build value selector) (unclashing : Unclashing build (requests value))
    {level : Nat} (within : value.nesting ≤ level + 1) :
    selector.encode.nesting ≤ level + 1 ↔ ¬ selector.HasPlaceIn level := by
  rw [Selector.nesting_encode_le_iff]
  constructor
  · rintro writtenWithin ⟨position, edge, index, of?, subject, found, deep⟩
    have own : depth position + 2 ≤ level + 1 := writtenWithin position _ found
    omega
  · intro noPlace position part found
    obtain ⟨partValue, valueFound, partReads, partUnclashing⟩ :=
      reads.exists_value unclashing found
    have below := nesting_valueAt valueFound
    rcases partReads.ownNesting_le partUnclashing with
      own | ⟨⟨edge, index, of?, subject, rfl⟩, one⟩
    · omega
    · have notDeepest : depth position ≠ level := by
        intro deepest
        exact noPlace ⟨position, edge, index, of?, subject, found, deepest⟩
      show depth position + 2 ≤ level + 1
      omega

/-- Nothing is written more than one level deeper than it was read. -/
theorem Reads.nesting_encode_le {value : Json} {selector : Selector}
    (reads : Reads build value selector) (unclashing : Unclashing build (requests value)) :
    selector.encode.nesting ≤ value.nesting + 1 := by
  rw [reads.nesting_encode_le_iff unclashing (Nat.le_succ _)]
  rintro ⟨position, edge, index, of?, subject, found, deep⟩
  obtain ⟨placeValue, valueFound, placeReads, _⟩ := reads.exists_value unclashing found
  have below := nesting_valueAt valueFound
  obtain ⟨members, rfl⟩ := placeReads.isObject
  rw [Json.nesting] at below
  omega

end SyntaxQuery.Selector
