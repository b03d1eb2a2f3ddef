import SyntaxQuery.Expression.Reader
import SyntaxQuery.Proofs.Selector.Descriptions
import SyntaxQuery.Proofs.Selector.Positions

/-!
Contract: putting another value where a part of a selector's value stands.

The value decodes to the selector with the other part in the same place, and a part that is refused
has the whole refused with its own error (`decode_replacement`). One step of this is that the members
decoded before the part are still accepted; the induction is on the position.

Does not own: values that are not accepted before the replacement.
-/

namespace SyntaxQuery

namespace Json

/-- The array with another element at an index; other values have no elements. -/
def setElement (index : Nat) (element : Json) : Json → Json
  | .array items => .array (items.set index element)
  | other => other

/-- The object with the value under a key changed, if there is one. -/
def alter (key : String) (change : Json → Json) : Json → Json
  | .object members =>
      match lookup? key members with
      | some held => .object (put key (change held) members)
      | none => .object members
  | other => other

theorem alter_of_found {key : String} {members : List (String × Json)} {held : Json}
    (found : lookup? key members = some held) (change : Json → Json) :
    alter key change (.object members) = .object (put key (change held) members) := by
  rw [alter, found]

end Json

namespace Selector

open Decoder

variable {build : Regex.Builder}

/-! ## The parts of a selector's value -/

/-- The shape that the members of an object are tagged with. -/
def shapeOf? (members : Members) : Option Shape :=
  ((Json.lookup? "type" members).bind Json.string?).bind Shape.ofTag?

/-- The value of a part in an object of a shape. A null beside a place is no part. -/
def shapePart? (members : Members) : Shape → Branch → Option Json
  | .group _, .member index => (Json.lookup? "selectors" members).bind (Json.element? index)
  | .relation _, .left => Json.lookup? "left" members
  | .relation _, .right => Json.lookup? "right" members
  | .place _, .inner => (Json.lookup? "right" members).filter fun inner => !isNull inner
  | _, _ => none

/-- The value of the part to which a branch leads. -/
def valuePart? : Json → Branch → Option Json
  | .object members, branch => (shapeOf? members).bind fun shape => shapePart? members shape branch
  | _, _ => none

/-- The value of the part at a position. -/
def valueAt? (value : Json) : List Branch → Option Json
  | [] => some value
  | branch :: rest => (valuePart? value branch).bind fun part => valueAt? part rest

/-- The value of a selector with another value of the part at a branch. -/
def putPart (value : Json) (branch : Branch) (part : Json) : Json :=
  match branch with
  | .member index => value.alter "selectors" (Json.setElement index part)
  | .left => value.alter "left" fun _ => part
  | .right => value.alter "right" fun _ => part
  | .inner => value.alter "right" fun _ => part

/-- The value of a selector with another value of the part at a position. -/
def putAt (value : Json) : List Branch → Json → Json
  | [], replacement => replacement
  | branch :: rest, replacement =>
      match valuePart? value branch with
      | some part => putPart value branch (putAt part rest replacement)
      | none => value

theorem shapeOf?_of_tagged {members : Members} {shape : Shape}
    (tagged : Json.lookup? "type" members = some (.string shape.tag)) :
    shapeOf? members = some shape := by
  rw [shapeOf?, tagged, Option.bind_some, Json.string?, Option.bind_some, Shape.ofTag?_tag]

theorem valuePart?_of_tagged {members : Members} {shape : Shape}
    (tagged : Json.lookup? "type" members = some (.string shape.tag)) (branch : Branch) :
    valuePart? (.object members) branch = shapePart? members shape branch := by
  rw [valuePart?, shapeOf?_of_tagged tagged, Option.bind_some]

/-- Where the value of a part stands in an object of a shape. -/
inductive PartOf (members : Members) (part : Json) : Shape → Branch → Prop where
  | member {grouping : Grouping} {index : Nat} {items : List Json}
      (listed : Json.lookup? "selectors" members = some (.array items))
      (atIndex : items[index]? = some part) : PartOf members part (.group grouping) (.member index)
  | left {combinator : Combinator} (found : Json.lookup? "left" members = some part) :
      PartOf members part (.relation combinator) .left
  | right {combinator : Combinator} (found : Json.lookup? "right" members = some part) :
      PartOf members part (.relation combinator) .right
  | inner {edge : Edge} (found : Json.lookup? "right" members = some part)
      (notNull : isNull part = false) : PartOf members part (.place edge) .inner

theorem partOf_of_shapePart? {members : Members} {shape : Shape} {branch : Branch} {part : Json}
    (found : shapePart? members shape branch = some part) : PartOf members part shape branch := by
  cases shape with
  | group grouping =>
      cases branch with
      | member index =>
          obtain ⟨listed, listFound, atIndex⟩ := Option.bind_eq_some_iff.mp found
          cases listed with
          | array items => exact .member listFound atIndex
          | _ => cases atIndex
      | _ => cases found
  | relation combinator =>
      cases branch with
      | left => exact .left found
      | right => exact .right found
      | _ => cases found
  | place edge =>
      cases branch with
      | inner =>
          obtain ⟨rightFound, isPart⟩ := Option.filter_eq_some_iff.mp found
          exact .inner rightFound (by simpa using isPart)
      | _ => cases found
  | _ => cases found

theorem partOf_of_valuePart? {value part : Json} {branch : Branch}
    (found : valuePart? value branch = some part) :
    ∃ members shape, value = .object members ∧ PartOf members part shape branch := by
  cases value with
  | object members =>
      obtain ⟨shape, _, partFound⟩ := Option.bind_eq_some_iff.mp found
      exact ⟨members, shape, rfl, partOf_of_shapePart? partFound⟩
  | _ => cases found

/-- What a value hands down to its parts holds at all positions if it holds of the whole. -/
theorem holds_at {Holds : Json → Prop}
    (handDown : ∀ {value part branch}, Holds value → valuePart? value branch = some part → Holds part)
    {value part : Json} {position : List Branch} (holds : Holds value)
    (found : valueAt? value position = some part) : Holds part := by
  induction position generalizing value with
  | nil =>
      cases found
      exact holds
  | cons branch rest inductionHypothesis =>
      obtain ⟨below, belowFound, partFound⟩ := Option.bind_eq_some_iff.mp found
      exact inductionHypothesis (handDown holds belowFound) partFound

/-- The patterns in a part are among those of the whole. -/
theorem unclashing_part {value part : Json} {branch : Branch}
    (unclashing : Unclashing build (requests value)) (found : valuePart? value branch = some part) :
    Unclashing build (requests part) := by
  cases value with
  | object members =>
      obtain ⟨shape, shapeFound, partFound⟩ := Option.bind_eq_some_iff.mp found
      rw [shapeOf?] at shapeFound
      rw [requests_object, shapeFound] at unclashing
      cases partOf_of_shapePart? partFound with
      | member listed atIndex =>
          have within : Unclashing build (listRequests "selectors" members) := unclashing
          rw [listRequests_eq, listed] at within
          exact unclashing_of_allRequests within (List.mem_of_getElem? atIndex)
      | left leftFound => exact unclashing_member (unclashing_append.mp unclashing).1 leftFound
      | right rightFound => exact unclashing_member (unclashing_append.mp unclashing).2 rightFound
      | inner innerFound _ => exact unclashing_member unclashing innerFound
  | _ => cases found

theorem unclashing_at {value part : Json} {position : List Branch}
    (unclashing : Unclashing build (requests value)) (found : valueAt? value position = some part) :
    Unclashing build (requests part) :=
  holds_at unclashing_part unclashing found

theorem rel_getElem?_of_forall₂ {α β : Type} {Related : α → β → Prop} {left : List α}
    {right : List β} (each : List.Forall₂ Related left right) (index : Nat) :
    Option.Rel Related left[index]? right[index]? := by
  induction each generalizing index with
  | nil => exact .none
  | cons related _ inductionHypothesis =>
      cases index with
      | zero => exact .some related
      | succ index =>
          rw [List.getElem?_cons_succ, List.getElem?_cons_succ]
          exact inductionHypothesis index

/-- An object that describes a selector has values for its parts, which read as these, and no others. -/
theorem Describes.rel_parts {members : Members} {selector : Selector}
    (describes : Describes build members selector) (branch : Branch) :
    Option.Rel (Reads build) (valuePart? (.object members) branch) (selector.part? branch) := by
  cases describes with
  | @single test tagged _ =>
      rw [valuePart?_of_tagged tagged]
      cases test <;> exact .none
  | group tagged listed each =>
      rw [valuePart?_of_tagged tagged]
      cases branch with
      | member index =>
          rw [shapePart?, listed]
          exact rel_getElem?_of_forall₂ each index
      | _ => exact .none
  | relation tagged leftFound leftReads rightFound rightReads =>
      rw [valuePart?_of_tagged tagged]
      cases branch with
      | left =>
          rw [shapePart?, leftFound]
          exact .some leftReads
      | right =>
          rw [shapePart?, rightFound]
          exact .some rightReads
      | _ => exact .none
  | place tagged _ alone =>
      rw [valuePart?_of_tagged tagged]
      cases branch with
      | inner =>
          have noPart : (Json.lookup? "right" members).filter (fun inner => !isNull inner) =
              none := by
            rw [Option.filter_eq_none_iff]
            intro value found
            simp [alone value found, isNull]
          rw [shapePart?, noPart]
          exact .none
      | _ => exact .none
  | placeOf tagged _ innerFound innerReads =>
      rw [valuePart?_of_tagged tagged]
      cases branch with
      | inner =>
          rw [shapePart?, innerFound, Option.filter_some, innerReads.isNull_eq_false]
          exact .some innerReads
      | _ => exact .none

/-- The positions of a value that reads as a selector are those of the selector. -/
theorem Reads.rel_positions {value : Json} {selector : Selector}
    (reads : Reads build value selector) (unclashing : Unclashing build (requests value))
    (position : List Branch) :
    Option.Rel (Reads build) (valueAt? value position) (selector.at? position) := by
  induction position generalizing value selector with
  | nil => exact .some reads
  | cons branch rest inductionHypothesis =>
      obtain ⟨members, rfl⟩ := reads.isObject
      have parts := (describes_of_reads unclashing reads).rel_parts branch
      rw [valueAt?, at?]
      generalize partFound : valuePart? (.object members) branch = part? at parts ⊢
      generalize selector.part? branch = read? at parts ⊢
      cases parts with
      | none => exact .none
      | some partReads => exact inductionHypothesis partReads (unclashing_part unclashing partFound)

/-! ## Replacing a part -/

theorem subjectMember_put {members : Members} {key : String} (notSubject : key ≠ "subject")
    (value : Json) : subjectMember (Json.put key value members) = subjectMember members := by
  rw [subjectMember, Json.lookup?_put, if_neg notSubject.symm, subjectMember]

/-- Setting the member of a part leaves the shape and the mark. -/
theorem decode_put {members : Members} {shape : Shape}
    (tagged : Json.lookup? "type" members = some (.string shape.tag)) {key : String}
    (notType : key ≠ "type") (notSubject : key ≠ "subject") (value : Json) :
    decode (.object (Json.put key value members)) =
      decodeShape shape.tag (Json.put key value members) (subjectMember members) shape := by
  have stillTagged : Json.lookup? "type" (Json.put key value members) =
      some (.string shape.tag) := by
    rw [Json.lookup?_put, if_neg notType.symm, tagged]
  rw [decode_of_tagged stillTagged, subjectMember_put notSubject]

theorem indexMember_put {kind key : String} (notIndex : key ≠ "index") (value : Json)
    (members : Members) :
    indexMember kind (Json.put key value members) = indexMember kind members := by
  rw [indexMember, Json.lookup?_put, if_neg notIndex.symm, indexMember]

theorem answers_decodePart_value {members : Members} {key : String} {value : Json}
    {answer : Except SelectorError Selector} (found : Json.lookup? key members = some value)
    (notNull : value ≠ .null) (answers : (decode value).Answers build answer) :
    (decodePart key members).Answers build (answer.map some) := by
  rw [decodePart_eq, found]
  dsimp only
  rw [if_neg (mt isNull_iff.mp notNull)]
  exact answers.bind_map fun _ => answers_pure _

theorem answers_decodeRequired {members : Members} {key : String} {value : Json}
    {answer : Except SelectorError Selector} (found : Json.lookup? key members = some value)
    (notNull : value ≠ .null) (answers : (decode value).Answers build answer) (kind : String) :
    (decodeRequired kind key members).Answers build answer := by
  have whole : (decodeRequired kind key members).Answers build (answer.map id) :=
    (answers_decodePart_value found notNull answers).map_bind_map fun _ => answers_pure _
  cases answer <;> exact whole

theorem Reads.ne_null {value : Json} {selector : Selector} (reads : Reads build value selector) :
    value ≠ .null := by
  obtain ⟨members, rfl⟩ := reads.isObject
  exact Json.noConfusion

theorem answers_decodeAll_of_reads {items : List Json} {parts : List Selector}
    (each : List.Forall₂ (Reads build) items parts) :
    (decodeAll items).Answers build (.ok parts) := by
  induction each with
  | nil => exact answers_pure _
  | cons reads _ inductionHypothesis =>
      rw [decodeAll]
      exact reads.bind (inductionHypothesis.bind (answers_pure _))

/-- The elements before the replaced one still decode, and so do those behind it. -/
theorem answers_decodeAll_set {items : List Json} {parts : List Selector}
    (each : List.Forall₂ (Reads build) items parts) {index : Nat} (within : index < items.length)
    {replacement : Json} {answer : Except SelectorError Selector}
    (answers : (decode replacement).Answers build answer) :
    (decodeAll (items.set index replacement)).Answers build (answer.map (parts.set index)) := by
  induction each generalizing index with
  | nil => exact absurd within (Nat.not_lt_zero _)
  | @cons item part items parts reads later inductionHypothesis =>
      cases index with
      | zero =>
          rw [List.set_cons_zero, decodeAll]
          exact answers.bind_map fun read =>
            (answers_decodeAll_of_reads later).bind (answers_pure (read :: parts))
      | succ index =>
          have restAnswers := inductionHypothesis (Nat.lt_of_succ_lt_succ within)
          rw [List.set_cons_succ, decodeAll]
          exact reads.bind (restAnswers.map_bind_map fun _ => answers_pure _)

/-- A part is replaced in what a value decodes to as in the value. -/
theorem Describes.answers_putPart {members : Members} {selector : Selector}
    (describes : Describes build members selector) {branch : Branch} {part replacement : Json}
    (found : valuePart? (.object members) branch = some part) (notNull : replacement ≠ .null)
    {answer : Except SelectorError Selector} (answers : (decode replacement).Answers build answer) :
    (decode (putPart (.object members) branch replacement)).Answers build
      (answer.map (selector.replacePart branch)) := by
  have set (key : String) (value : Json) :
      Json.lookup? key (Json.put key value members) = some value := by
    rw [Json.lookup?_put, if_pos rfl]
  cases describes with
  | @single test tagged _ =>
      rw [valuePart?_of_tagged tagged] at found
      cases test <;> cases partOf_of_shapePart? found
  | group tagged listed each =>
      rw [valuePart?_of_tagged tagged] at found
      cases partOf_of_shapePart? found with
      | member sameListed atIndex =>
          cases listed.symm.trans sameListed
          have within := (List.getElem?_eq_some_iff.mp atIndex).1
          rw [putPart, Json.alter_of_found listed, Json.setElement,
            decode_put tagged (by decide) (by decide), decodeShape, decodeList_eq, set]
          exact (answers_decodeAll_set each within answers).map_bind_map fun _ => answers_pure _
  | @relation combinator leftValue rightValue left right tagged leftFound leftReads rightFound
      rightReads =>
      rw [valuePart?_of_tagged tagged] at found
      cases partOf_of_shapePart? found with
      | left _ =>
          have rightKept : Json.lookup? "right" (Json.put "left" replacement members) =
              some rightValue := by
            rw [Json.lookup?_put, if_neg (by decide), rightFound]
          rw [putPart, Json.alter_of_found leftFound, decode_put tagged (by decide) (by decide),
            decodeShape_relation]
          refine (answers_decodeRequired (set "left" _) notNull answers _).bind_map fun left => ?_
          exact (answers_decodeRequired rightKept rightReads.ne_null rightReads _).bind
            (answers_pure _)
      | right _ =>
          have leftKept : Json.lookup? "left" (Json.put "right" replacement members) =
              some leftValue := by
            rw [Json.lookup?_put, if_neg (by decide), leftFound]
          rw [putPart, Json.alter_of_found rightFound, decode_put tagged (by decide) (by decide),
            decodeShape_relation]
          refine (answers_decodeRequired leftKept leftReads.ne_null leftReads _).bind ?_
          exact (answers_decodeRequired (set "right" _) notNull answers _).bind_map fun right =>
            answers_pure _
  | place tagged _ alone =>
      rw [valuePart?_of_tagged tagged] at found
      cases partOf_of_shapePart? found with
      | inner rightFound isPart =>
          rw [alone part rightFound] at isPart
          cases isPart
  | placeOf tagged indexed innerFound innerReads =>
      rw [valuePart?_of_tagged tagged] at found
      cases partOf_of_shapePart? found with
      | inner _ _ =>
          rw [putPart, Json.alter_of_found innerFound, decode_put tagged (by decide) (by decide),
            decodeShape, indexMember_put (by decide)]
          refine indexed.bind ?_
          exact (answers_decodePart_value (set "right" _) notNull answers).map_bind_map fun _ =>
            answers_pure _

theorem putPart_ne_null {value part : Json} {branch : Branch}
    (found : valuePart? value branch = some part) (replacement : Json) :
    putPart value branch replacement ≠ .null := by
  cases value with
  | object members =>
      have alter_ne_null (key : String) (change : Json → Json) :
          Json.alter key change (.object members) ≠ .null := by
        rw [Json.alter]
        split <;> exact Json.noConfusion
      cases branch <;> exact alter_ne_null _ _
  | _ => cases found

theorem putAt_ne_null {value part : Json} {position : List Branch}
    (found : valueAt? value position = some part) {replacement : Json}
    (notNull : replacement ≠ .null) : putAt value position replacement ≠ .null := by
  cases position with
  | nil => exact notNull
  | cons branch rest =>
      obtain ⟨below, belowFound, _⟩ := Option.bind_eq_some_iff.mp found
      rw [putAt, belowFound]
      exact putPart_ne_null belowFound _

theorem shapeOf?_put {key : String} (notType : key ≠ "type") (value : Json) (members : Members) :
    shapeOf? (Json.put key value members) = shapeOf? members := by
  rw [shapeOf?, Json.lookup?_put, if_neg notType.symm, shapeOf?]

theorem valuePart?_putPart {value part replacement : Json} {branch : Branch}
    (found : valuePart? value branch = some part) (notNull : replacement ≠ .null) :
    valuePart? (putPart value branch replacement) branch = some replacement := by
  cases value with
  | object members =>
      obtain ⟨shape, shapeFound, partFound⟩ := Option.bind_eq_some_iff.mp found
      have isPut {key : String} (notType : key ≠ "type") (held : Json) (branch : Branch) :
          valuePart? (.object (Json.put key held members)) branch =
            shapePart? (Json.put key held members) shape branch := by
        rw [valuePart?, shapeOf?_put notType, shapeFound, Option.bind_some]
      cases partOf_of_shapePart? partFound with
      | @member grouping index items listed atIndex =>
          have within := (List.getElem?_eq_some_iff.mp atIndex).1
          rw [putPart, Json.alter_of_found listed, isPut (by decide), shapePart?, Json.lookup?_put,
            if_pos rfl, Option.bind_some, Json.setElement, Json.element?]
          simp [within]
      | left leftFound =>
          rw [putPart, Json.alter_of_found leftFound, isPut (by decide), shapePart?,
            Json.lookup?_put, if_pos rfl]
      | right rightFound =>
          rw [putPart, Json.alter_of_found rightFound, isPut (by decide), shapePart?,
            Json.lookup?_put, if_pos rfl]
      | inner innerFound _ =>
          have isPart : isNull replacement = false :=
            Bool.eq_false_iff.mpr (mt isNull_iff.mp notNull)
          rw [putPart, Json.alter_of_found innerFound, isPut (by decide), shapePart?,
            Json.lookup?_put, if_pos rfl, Option.filter_some, isPart]
          rfl
  | _ => cases found

/-- The replacement stands at its position. -/
theorem valueAt?_putAt {value part : Json} {position : List Branch}
    (found : valueAt? value position = some part) {replacement : Json}
    (notNull : replacement ≠ .null) :
    valueAt? (putAt value position replacement) position = some replacement := by
  induction position generalizing value with
  | nil => rfl
  | cons branch rest inductionHypothesis =>
      obtain ⟨below, belowFound, partFound⟩ := Option.bind_eq_some_iff.mp found
      have belowNotNull := putAt_ne_null partFound notNull
      rw [putAt, belowFound]
      dsimp only
      rw [valueAt?, valuePart?_putPart belowFound belowNotNull, Option.bind_some]
      exact inductionHypothesis partFound

/-- The answer for the replacement passes through every selector above its position. -/
theorem Reads.answers_putAt {value part replacement : Json} {selector : Selector}
    {position : List Branch} (reads : Reads build value selector)
    (unclashing : Unclashing build (requests value)) (found : valueAt? value position = some part)
    (notNull : replacement ≠ .null) {answer : Except SelectorError Selector}
    (answers : (decode replacement).Answers build answer) :
    (decode (putAt value position replacement)).Answers build
      (answer.map (selector.replaceAt position)) := by
  induction position generalizing value selector with
  | nil => cases answer <;> exact answers
  | cons branch rest inductionHypothesis =>
      obtain ⟨below, belowFound, partFound⟩ := Option.bind_eq_some_iff.mp found
      obtain ⟨members, rfl⟩ := reads.isObject
      have describes := describes_of_reads unclashing reads
      have related := describes.rel_parts branch
      rw [belowFound] at related
      generalize readFound : selector.part? branch = read? at related
      cases related with
      | @some _ read belowReads =>
          have belowAnswers := inductionHypothesis belowReads
            (unclashing_part unclashing belowFound) partFound
          have whole := describes.answers_putPart belowFound
            (putAt_ne_null partFound notNull) belowAnswers
          rw [putAt, belowFound]
          cases answer with
          | error error => exact whole
          | ok replaced =>
              show (decode _).Answers build (.ok (selector.replaceAt (branch :: rest) replaced))
              rw [replaceAt, readFound]
              exact whole

/-! ## Accepted values -/

/-- No pattern in the value has options with a slash. -/
def OptionsSlashFree (value : Json) : Prop :=
  ∀ request ∈ requests value, '/' ∉ request.2.toList

theorem OptionsSlashFree.unclashing {value : Json} (slashFree : OptionsSlashFree value) :
    Unclashing build (requests value) := by
  intro request isRequest clash
  obtain ⟨before, behind, _, options, _⟩ := clash
  apply slashFree request isRequest
  rw [options]
  simp

theorem OptionsSlashFree.answers {value : Json} (slashFree : OptionsSlashFree value)
    {calls : List RegexCache.Call} {answer : Except SelectorError Selector}
    (found : decodedAfter build calls value = answer) :
    (decode value).Answers build answer := by
  obtain ⟨given, answers⟩ := steady_decode value slashFree.unclashing
  rw [decodedAfter_of_answers answers] at found
  exact found ▸ answers

theorem Reads.tagged {value : Json} {selector : Selector} (reads : Reads build value selector)
    (unclashing : Unclashing build (requests value)) :
    value.member? "type" = some (.string selector.tag) := by
  obtain ⟨members, rfl⟩ := reads.isObject
  cases describes_of_reads unclashing reads <;> assumption

theorem decode_unknownTag {value : Json} {tag : String}
    (tagged : value.member? "type" = some (.string tag)) (unknown : tag ∉ selectorTags) :
    decode value = throw (.unknownTag tag (suggestTag? tag)) := by
  cases value with
  | object members =>
      have noShape : Shape.ofTag? tag = none := by
        cases found : Shape.ofTag? tag with
        | none => rfl
        | some shape =>
            rw [← Shape.tag_of_ofTag? found] at unknown
            exact absurd shape.tag_mem_selectorTags unknown
      rw [decode_object, show Json.lookup? "type" members = some (.string tag) from tagged,
        Option.bind_some, Json.string?]
      dsimp only
      rw [noShape]
  | _ => cases tagged

/-- With any library, an accepted value has the positions of its selector, and at each a value with
the tag of the part that it decodes to. Another value can be put in place of any of them. If the
options of its patterns have no slash either, it is accepted there if it is accepted alone, and the
selector then has its part there; and if it is refused, the whole is refused with the same error.
None of this depends on earlier calls. -/
theorem decode_replacement (build : Regex.Builder) {value : Json}
    (slashFree : OptionsSlashFree value) {calls : List RegexCache.Call} {selector : Selector}
    (accepted : decodedAfter build calls value = .ok selector) :
    (∀ position, Option.Rel (fun part read =>
        (∀ later, decodedAfter build later part = .ok read) ∧
          part.member? "type" = some (.string read.tag) ∧ read.tag ∈ selectorTags)
      (valueAt? value position) (selector.at? position)) ∧
    ∀ position part, valueAt? value position = some part →
      ∀ replacement, replacement ≠ .null → OptionsSlashFree replacement → ∀ before later,
        valueAt? (putAt value position replacement) position = some replacement ∧
        (∀ read, decodedAfter build before replacement = .ok read →
          decodedAfter build later (putAt value position replacement) =
            .ok (selector.replaceAt position read)) ∧
        (∀ error, decodedAfter build before replacement = .error error →
          decodedAfter build later (putAt value position replacement) = .error error) ∧
        (∀ tag, replacement.member? "type" = some (.string tag) → tag ∉ selectorTags →
          decodedAfter build later (putAt value position replacement) =
            .error (.unknownTag tag (suggestTag? tag))) := by
  have reads : Reads build value selector := slashFree.answers accepted
  constructor
  · intro position
    have related := reads.rel_positions slashFree.unclashing position
    generalize found : valueAt? value position = part? at related ⊢
    generalize selector.at? position = read? at related ⊢
    cases related with
    | none => exact .none
    | some partReads =>
        refine .some ⟨partReads.after_calls, ?_, Shape.tag_mem_selectorTags _⟩
        exact partReads.tagged (unclashing_at slashFree.unclashing found)
  · intro position part found replacement notNull replacementSlashFree before later
    have passes {answer : Except SelectorError Selector}
        (answers : (decode replacement).Answers build answer) :
        decodedAfter build later (putAt value position replacement) =
          answer.map (selector.replaceAt position) :=
      decodedAfter_of_answers
        (reads.answers_putAt slashFree.unclashing found notNull answers) later
    refine ⟨valueAt?_putAt found notNull, ?_, ?_, ?_⟩
    · intro read readFound
      exact passes (replacementSlashFree.answers readFound)
    · intro error refused
      exact passes (replacementSlashFree.answers refused)
    · intro tag tagged unknown
      have answers : (decode replacement).Answers build
          (.error (.unknownTag tag (suggestTag? tag))) := by
        rw [decode_unknownTag tagged unknown]
        exact answers_throw _
      exact passes answers

/-- The value of an identifier. -/
def identifierValue (name : String) : Json :=
  .object [("type", .string "identifier"), ("value", .string name)]

/-- The value of a child whose node must not match another selector. -/
def childWithout (excluded : Json) : Json :=
  .object [("type", .string "child"), ("left", identifierValue "A"),
    ("right", .object [("type", .string "not"), ("selectors", .array [excluded])])]

/-- Another identifier is excluded, and an unknown tag is refused there as elsewhere. -/
theorem childWithout_replaced :
    OptionsSlashFree (childWithout (identifierValue "B")) ∧
      OptionsSlashFree (identifierValue "C") ∧
      decodedAfter Expression.build [] (putAt (childWithout (identifierValue "B"))
        [.right, .member 0] (identifierValue "C")) =
        .ok (.relation .child (.single (.identifier "A") false)
          (.group .noneOf [.single (.identifier "C") false] false) false) ∧
      decodedAfter Expression.build [] (putAt (childWithout (identifierValue "B"))
        [.right, .member 0] (.object [("type", .string "idetifier")])) =
        .error (.unknownTag "idetifier" (some "identifier")) := by
  have slashFree (name : String) : OptionsSlashFree (childWithout (identifierValue name)) := by
    intro request isRequest
    cases isRequest
  have nothing : OptionsSlashFree (identifierValue "C") := by
    intro request isRequest
    cases isRequest
  have accepted : decodedAfter Expression.build [] (childWithout (identifierValue "B")) =
      .ok (.relation .child (.single (.identifier "A") false)
        (.group .noneOf [.single (.identifier "B") false] false) false) := rfl
  have found : valueAt? (childWithout (identifierValue "B")) [.right, .member 0] =
      some (identifierValue "B") := rfl
  obtain ⟨_, replaced⟩ := decode_replacement Expression.build (slashFree "B") accepted
  refine ⟨slashFree "B", nothing, ?_, ?_⟩
  · exact (replaced _ _ found _ Json.noConfusion nothing [] []).2.1 _ rfl
  · have unknown : "idetifier" ∉ selectorTags := by decide
    have nearest : suggestTag? "idetifier" = some "identifier" := by decide +kernel
    rw [← nearest]
    refine (replaced _ _ found _ Json.noConfusion ?_ [] []).2.2.2 _ rfl unknown
    intro request isRequest
    cases isRequest

end Selector

end SyntaxQuery
