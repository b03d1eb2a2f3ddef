import SyntaxQuery.Proofs.Json.Nesting
import SyntaxQuery.Proofs.Json.Numbers
import SyntaxQuery.Proofs.Selector.Positions
import SyntaxQuery.Proofs.Selector.RoundTrip

/-!
Contract: the values that selectors are written as.

Their keys are distinct, their integers are the indices of places, and how deeply they nest is told
by the positions of the parts: at each part, the containers around it and those that it is written
with itself.

Does not own: reading.
-/

namespace SyntaxQuery.Selector

/-! ## Tagged objects -/

/-- The tag and the mark have every property that strings and Booleans have. -/
theorem forall_taggedMembers_iff (Holds : Json → Prop) (strings : ∀ text, Holds (.string text))
    (booleans : ∀ value, Holds (.bool value)) (shape : Shape) (members : Members) (subject : Bool) :
    (∀ member ∈ taggedMembers shape members subject, Holds member.2) ↔
      ∀ member ∈ members, Holds member.2 := by
  have marks : ∀ member ∈ (if subject then [("subject", Json.bool true)] else []),
      Holds member.2 := by
    cases subject <;> simp [booleans]
  rw [taggedMembers, List.cons_append, List.forall_mem_cons, List.forall_mem_append]
  exact ⟨fun holds => holds.2.1, fun holds => ⟨strings _, holds, marks⟩⟩

theorem keysDistinct_tagged {members : Members}
    (distinct : ("type" :: members.map Prod.fst ++ ["subject"]).Nodup)
    (each : ∀ member ∈ members, member.2.KeysDistinct) (shape : Shape) (subject : Bool) :
    (tagged shape members subject).KeysDistinct := by
  refine Json.keysDistinct_object_iff.mpr ⟨?_, ?_⟩
  · cases subject with
    | false => simpa using (List.nodup_append.mp distinct).1
    | true => simpa using distinct
  · exact (forall_taggedMembers_iff Json.KeysDistinct (fun _ => trivial) (fun _ => trivial) shape
      members subject).mpr each

/-- All numbers in the value have the property. -/
def AllNumbers (Holds : Json.Number → Prop) (value : Json) : Prop :=
  ∀ number ∈ value.numbers, Holds number

theorem allNumbers_object_iff {Holds : Json.Number → Prop} {members : Members} :
    AllNumbers Holds (.object members) ↔ ∀ member ∈ members, AllNumbers Holds member.2 := by
  simp only [AllNumbers, Json.mem_numbers_object_iff]
  exact ⟨fun holds member isMember number inMember => holds number ⟨member, isMember, inMember⟩,
    fun holds number ⟨member, isMember, inMember⟩ => holds member isMember number inMember⟩

theorem allNumbers_array_iff {Holds : Json.Number → Prop} {items : List Json} :
    AllNumbers Holds (.array items) ↔ ∀ item ∈ items, AllNumbers Holds item := by
  simp only [AllNumbers, Json.mem_numbers_array_iff]
  exact ⟨fun holds item isItem number inItem => holds number ⟨item, isItem, inItem⟩,
    fun holds number ⟨item, isItem, inItem⟩ => holds item isItem number inItem⟩

theorem allNumbers_tagged_iff {Holds : Json.Number → Prop} {shape : Shape} {members : Members}
    {subject : Bool} :
    AllNumbers Holds (tagged shape members subject) ↔
      ∀ member ∈ members, AllNumbers Holds member.2 :=
  allNumbers_object_iff.trans (forall_taggedMembers_iff (AllNumbers Holds)
    (fun _ _ inString => absurd inString List.not_mem_nil)
    (fun _ _ inBool => absurd inBool List.not_mem_nil) shape members subject)

theorem encodeAll_eq_map (selectors : List Selector) : encodeAll selectors = selectors.map encode := by
  induction selectors with
  | nil => rfl
  | cons first rest inductionHypothesis => rw [encodeAll, inductionHypothesis, List.map_cons]

/-- A test is written with texts and with its operand. -/
theorem text_or_operand_of_mem_encode {test : NodeTest} {member : String × Json}
    (isMember : member ∈ test.encode) :
    (∃ text, member.2 = .string text) ∨ ∃ path operator? operand,
      test = .attribute path operator? (some operand) ∧ member.2 = operand.encode := by
  cases test with
  | «attribute» path operator? operand? =>
      rcases List.mem_append.mp isMember with isText | isOperand
      · left
        cases operator? with
        | none =>
            rw [List.mem_singleton.mp isText]
            exact ⟨path, rfl⟩
        | some operator =>
            rcases List.mem_cons.mp isText with rfl | isOperator
            · exact ⟨path, rfl⟩
            · rw [List.mem_singleton.mp isOperator]
              exact ⟨operator.text, rfl⟩
      · right
        cases operand? with
        | none => cases isOperand
        | some operand =>
            rw [List.mem_singleton.mp isOperand]
            exact ⟨path, operator?, operand, rfl, rfl⟩
  | wildcard =>
      rw [List.mem_singleton.mp isMember]
      exact .inl ⟨"*", rfl⟩
  | identifier value =>
      rw [List.mem_singleton.mp isMember]
      exact .inl ⟨value, rfl⟩
  | field path =>
      rw [List.mem_singleton.mp isMember]
      exact .inl ⟨path, rfl⟩

/-! ## Keys -/

theorem keysDistinct_encode_literal (literal : Literal) : literal.encode.KeysDistinct := by
  cases literal with
  | number value =>
      rw [Literal.encode, Json.ofFloat]
      split <;> trivial
  | _ => trivial

theorem keysDistinct_encode_operand (operand : Operand) : operand.encode.KeysDistinct := by
  cases operand with
  | pattern compiled =>
      rw [Operand.encode]
      split <;> simp [Json.KeysDistinct, Json.MemberKeysDistinct]
  | literal value =>
      simp [Operand.encode, Json.KeysDistinct, Json.MemberKeysDistinct, keysDistinct_encode_literal]
  | typeName name => simp [Operand.encode, Json.KeysDistinct, Json.MemberKeysDistinct]

theorem keysDistinct_encode_single (test : NodeTest) (subject : Bool) :
    (Selector.single test subject).encode.KeysDistinct := by
  have each : ∀ member ∈ test.encode, member.2.KeysDistinct := by
    intro member isMember
    rcases text_or_operand_of_mem_encode isMember with ⟨text, isText⟩ | ⟨_, _, operand, _, isOperand⟩
    · rw [isText]
      trivial
    · rw [isOperand]
      exact keysDistinct_encode_operand operand
  rw [encode]
  cases test with
  | «attribute» path operator? operand? =>
      apply keysDistinct_tagged
      · cases operator? <;> cases operand? <;> simp [NodeTest.encode]
      · exact each
  | _ =>
      apply keysDistinct_tagged
      · simp [NodeTest.encode]
      · exact each

/-- The objects that a selector is written as have distinct keys. -/
theorem keysDistinct_encode (selector : Selector) : selector.encode.KeysDistinct := by
  induction selector using part_induction with
  | step selector inductionHypothesis =>
      cases selector with
      | single test subject => exact keysDistinct_encode_single test subject
      | group grouping members subject =>
          rw [encode]
          apply keysDistinct_tagged
          · simp
          · rw [List.forall_mem_singleton, encodeAll_eq_map, Json.keysDistinct_array_iff,
              List.forall_mem_map]
            intro member isMember
            obtain ⟨index, found⟩ := List.mem_iff_getElem?.mp isMember
            exact inductionHypothesis (.member index) member found
      | relation combinator left right subject =>
          have leftDistinct := inductionHypothesis .left left rfl
          have rightDistinct := inductionHypothesis .right right rfl
          rw [encode]
          apply keysDistinct_tagged
          · simp
          · simp [leftDistinct, rightDistinct]
      | place edge index of? subject =>
          have indexDistinct : (encodeIndex index).KeysDistinct := by
            simp [encodeIndex, Json.keysDistinct_object_iff, Json.KeysDistinct, Json.ofNat]
          cases of? with
          | none =>
              rw [encode]
              apply keysDistinct_tagged
              · simp
              · simp [indexDistinct]
          | some inner =>
              have innerDistinct := inductionHypothesis .inner inner rfl
              rw [encode]
              apply keysDistinct_tagged
              · simp
              · simp [indexDistinct, innerDistinct]

/-! ## Numbers -/

/-- The number is a double, or the index of a place in the selector. -/
def IsDoubleOrIndex (selector : Selector) (number : Json.Number) : Prop :=
  (∃ value, number = .double value) ∨
    ∃ position edge index of? subject, selector.at? position = some (.place edge index of? subject) ∧
      number = .integer (Int.ofNat index)

theorem IsDoubleOrIndex.of_part {selector part : Selector} {branch : Branch}
    (found : selector.part? branch = some part) {number : Json.Number}
    (inPart : part.IsDoubleOrIndex number) : selector.IsDoubleOrIndex number := by
  rcases inPart with isDouble | ⟨position, edge, index, of?, subject, isPlace, same⟩
  · exact .inl isDouble
  · refine .inr ⟨branch :: position, edge, index, of?, subject, ?_, same⟩
    rw [at?_cons found, isPlace]

theorem isDouble_of_mem_numbers_operand {operand : Operand} {number : Json.Number}
    (inOperand : number ∈ operand.encode.numbers) : ∃ value, number = .double value := by
  cases operand with
  | pattern compiled =>
      rw [Operand.encode] at inOperand
      split at inOperand <;> simp [Json.numbers, Json.memberNumbers] at inOperand
  | literal literal =>
      cases literal with
      | number value =>
          rw [Operand.encode, Literal.encode, Json.ofFloat] at inOperand
          split at inOperand
          · refine ⟨value, ?_⟩
            simpa [Json.numbers, Json.memberNumbers] using inOperand
          · simp [Json.numbers, Json.memberNumbers] at inOperand
      | _ => simp [Operand.encode, Literal.encode, Json.numbers, Json.memberNumbers] at inOperand
  | typeName name => simp [Operand.encode, Json.numbers, Json.memberNumbers] at inOperand

/-- The integers that a selector is written with are the indices of its places. -/
theorem allNumbers_encode (selector : Selector) :
    AllNumbers selector.IsDoubleOrIndex selector.encode := by
  induction selector using part_induction with
  | step selector inductionHypothesis =>
      have ofPart {branch : Branch} {part : Selector} (found : selector.part? branch = some part) :
          AllNumbers selector.IsDoubleOrIndex part.encode :=
        fun number inPart => (inductionHypothesis branch part found number inPart).of_part found
      cases selector with
      | single test subject =>
          rw [encode, allNumbers_tagged_iff]
          intro member isMember number inMember
          rcases text_or_operand_of_mem_encode isMember with
            ⟨text, isText⟩ | ⟨_, _, operand, _, isOperand⟩
          · rw [isText] at inMember
            cases inMember
          · rw [isOperand] at inMember
            exact .inl (isDouble_of_mem_numbers_operand inMember)
      | group grouping members subject =>
          rw [encode, allNumbers_tagged_iff, List.forall_mem_singleton, encodeAll_eq_map,
            allNumbers_array_iff, List.forall_mem_map]
          intro member isMember
          obtain ⟨index, found⟩ := List.mem_iff_getElem?.mp isMember
          exact @ofPart (.member index) member found
      | relation combinator left right subject =>
          rw [encode, allNumbers_tagged_iff]
          simpa using ⟨@ofPart .left left rfl, @ofPart .right right rfl⟩
      | place edge index of? subject =>
          have ofIndex : AllNumbers (Selector.place edge index of? subject).IsDoubleOrIndex
              (encodeIndex index) := by
            intro number inIndex
            refine .inr ⟨[], edge, index, of?, subject, rfl, ?_⟩
            simpa [encodeIndex, Json.ofNat, Json.numbers, Json.memberNumbers] using inIndex
          cases of? with
          | none =>
              rw [encode, allNumbers_tagged_iff]
              simpa using ofIndex
          | some inner =>
              rw [encode, allNumbers_tagged_iff]
              simpa using ⟨ofIndex, @ofPart .inner inner rfl⟩

/-! ## Nesting -/

/-- How deeply the containers nest that a selector is written with besides its parts. -/
def ownNesting : Selector → Nat
  | .single (.attribute _ _ (some _)) _ => 2
  | .single _ _ => 1
  | .group _ _ _ => 2
  | .relation _ _ _ _ => 1
  | .place _ _ _ _ => 2

/-- How many containers of a selector stand around a part directly below it. -/
def Branch.depth : Branch → Nat
  | .member _ => 2
  | _ => 1

/-- How many containers stand around the part at a position. -/
def depth : List Branch → Nat
  | [] => 0
  | branch :: rest => branch.depth + depth rest

theorem nesting_tagged (shape : Shape) (members : Members) (subject : Bool) :
    (tagged shape members subject).nesting = Json.memberNesting members + 1 := by
  show (Json.object (taggedMembers shape members subject)).nesting = _
  rw [taggedMembers, Json.nesting, Json.memberNesting_append, Json.memberNesting]
  cases subject <;> simp [Json.memberNesting, Json.nesting]

theorem memberNesting_encode_test (test : NodeTest) (subject : Bool) :
    Json.memberNesting test.encode + 1 = (Selector.single test subject).ownNesting := by
  cases test with
  | «attribute» path operator? operand? =>
      cases operand? with
      | none => cases operator? <;> rfl
      | some operand =>
          have one : operand.encode.nesting = 1 := by
            cases operand with
            | pattern compiled =>
                rw [Operand.encode]
                split <;> rfl
            | literal literal =>
                cases literal with
                | number value =>
                    rw [Operand.encode, Literal.encode, Json.ofFloat]
                    split <;> rfl
                | _ => rfl
            | typeName name => rfl
          cases operator? <;>
            simp [NodeTest.encode, Json.memberNesting, Json.nesting, ownNesting, one]
  | _ => rfl

/-- What is written nests within a bound if the selector itself and its parts do. -/
theorem nesting_encode_le_iff_parts {selector : Selector} {bound : Nat} :
    selector.encode.nesting ≤ bound ↔ selector.ownNesting ≤ bound ∧
      ∀ branch part, selector.part? branch = some part →
        branch.depth + part.encode.nesting ≤ bound := by
  cases selector with
  | single test subject =>
      rw [encode, nesting_tagged, memberNesting_encode_test test subject]
      simp [part?]
  | group grouping members subject =>
      have written : (Selector.group grouping members subject).encode.nesting =
          2 + Json.itemNesting (members.map encode) := by
        rw [encode, nesting_tagged, encodeAll_eq_map]
        simp only [Json.memberNesting, Json.nesting]
        omega
      rw [written, Json.add_itemNesting_le_iff, List.forall_mem_map, forall_part_group_iff]
      simp only [List.mem_iff_getElem?, forall_exists_index, ownNesting, Branch.depth]
  | relation combinator left right subject =>
      rw [encode, nesting_tagged, forall_part_relation_iff, ownNesting]
      simp only [Json.memberNesting, Branch.depth]
      omega
  | place edge index of? subject =>
      have one : (encodeIndex index).nesting = 1 := rfl
      rw [forall_part_place_iff, ownNesting]
      cases of? with
      | none =>
          rw [encode, nesting_tagged]
          simp [Json.memberNesting, one]
      | some inner =>
          rw [encode, nesting_tagged]
          simp only [Json.memberNesting, one, Option.mem_some_iff, forall_eq', Branch.depth]
          omega

/-- What is written nests within a bound if each part does at its position. -/
theorem nesting_encode_le_iff {selector : Selector} {bound : Nat} :
    selector.encode.nesting ≤ bound ↔
      ∀ position part, selector.at? position = some part →
        depth position + part.ownNesting ≤ bound := by
  induction selector using part_induction generalizing bound with
  | step selector inductionHypothesis =>
      rw [nesting_encode_le_iff_parts]
      constructor
      · rintro ⟨own, parts⟩ position part found
        cases position with
        | nil =>
            cases found
            rw [depth, Nat.zero_add]
            exact own
        | cons branch rest =>
            obtain ⟨below, belowFound, partFound⟩ := Option.bind_eq_some_iff.mp found
            have within := parts branch below belowFound
            have belowWithin : below.encode.nesting ≤ bound - branch.depth := by omega
            have partWithin := (inductionHypothesis branch below belowFound).mp belowWithin rest part
              partFound
            rw [depth]
            omega
      · intro each
        refine ⟨?_, ?_⟩
        · have own := each [] selector rfl
          rwa [depth, Nat.zero_add] at own
        · intro branch part found
          have within : part.encode.nesting ≤ bound - branch.depth := by
            rw [inductionHypothesis branch part found]
            intro rest below belowFound
            have whole := each (branch :: rest) below (by rw [at?_cons found, belowFound])
            rw [depth] at whole
            omega
          have deep := each [branch] part (by rw [at?_cons found]; rfl)
          rw [depth, depth] at deep
          omega

end SyntaxQuery.Selector
