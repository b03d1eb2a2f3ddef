import SyntaxQuery.Expression.Reader
import SyntaxQuery.Files.System
import SyntaxQuery.Proofs.Json.RoundTrip
import SyntaxQuery.Proofs.Selector.MarkedPositions
import SyntaxQuery.Proofs.Selector.ReadParts

/-!
Contract: reading the printed fragments of a selector that was read from text.

Text nests within a limit. What is read in the limit is printed in it, except for the index of a
place that was read alone from the innermost object that the limit allows: it is printed as an object
in one more container, and the text is refused. A fragment that is a left side stands below another
object, so its own text has room for that.

Does not own: the texts of doubles.
-/

namespace SyntaxQuery.Selector

open Decoder

variable {build : Regex.Builder}

/-! ## Loading -/

/-- What is loaded from a text with a library, after some calls. -/
def loadedAfter (build : Regex.Builder) (calls : List RegexCache.Call) (text : String) :
    Except SelectorLoadError Selector :=
  (loadSelector build text (RegexCache.after build calls)).1

theorem loadedAfter_of_parse? {text : String} {value : Json}
    (parsed : Json.parse? text = some value) (calls : List RegexCache.Call) :
    loadedAfter build calls text = (decodedAfter build calls value).mapError .invalid := by
  rw [loadedAfter, loadSelector, parsed, decodedAfter]
  dsimp only
  rcases (decode value).runOn build (RegexCache.after build calls) with ⟨answer, rest⟩
  cases answer <;> rfl

/-- A text that loads is that of a value which reads as the selector. -/
theorem reads_of_loadedAfter {text : String} {value : Json}
    (parsed : Json.parse? text = some value) (slashFree : OptionsSlashFree value)
    {calls : List RegexCache.Call} {selector : Selector}
    (accepted : loadedAfter build calls text = .ok selector) :
    Reads build value selector := by
  obtain ⟨answer, answers⟩ := steady_decode value slashFree.unclashing
  rw [loadedAfter_of_parse? parsed, decodedAfter_of_answers answers] at accepted
  cases answer with
  | error error => cases accepted
  | ok read =>
      cases accepted
      exact answers

/-- The value reads as the selector with a library, and its compact text gives it back within the
limit of nesting. -/
structure Spells (build : Regex.Builder) (value : Json) (selector : Selector) : Prop where
  reads : Reads build value selector
  distinct : value.KeysDistinct
  readBack : value.NumbersReadBack

theorem Spells.loads {value : Json} {selector : Selector} (spells : Spells build value selector)
    (calls : List RegexCache.Call) :
    loadedAfter build calls value.compact =
      if value.nesting ≤ Json.textNestingLimit then .ok selector else .error .notJson := by
  have parsed := Json.parse?_compact spells.distinct spells.readBack
  split
  · next within =>
      rw [if_pos within] at parsed
      rw [loadedAfter_of_parse? parsed, spells.reads.after_calls]
      rfl
  · next beyond =>
      rw [if_neg beyond] at parsed
      rw [loadedAfter, loadSelector, parsed]

/-! ## Printed selectors -/

/-- Every double in the value is read back from its text. -/
def DoublesReadBack (value : Json) : Prop :=
  ∀ number, .double number ∈ value.numbers → (Json.Number.double number).ReadsBack

/-- The integers in what is written are indices, which are read back from their digits. -/
theorem Reads.numbersReadBack {value : Json} {selector : Selector}
    (reads : Reads build value selector) (unclashing : Unclashing build (requests value))
    (representable : value.IsRepresentable) (doubles : DoublesReadBack selector.encode) :
    selector.encode.NumbersReadBack := by
  intro number isNumber
  rcases allNumbers_encode selector number isNumber with
    ⟨double, rfl⟩ | ⟨position, edge, index, of?, subject, found, rfl⟩
  · exact doubles double isNumber
  · exact Json.readsBack_ofNat (reads.index_lt unclashing representable found)

theorem Reads.settle_agrees {value : Json} {selector : Selector}
    (reads : Reads build value selector) (representable : value.IsRepresentable) :
    (selector.settle build).agrees selector = true := by
  have faithful := yields_decode value representable build _ selector (reads.after_calls [])
  rw [settle_agrees_iff]
  exact fun test isTest => (faithful test isTest).1

/-- What a selector that was read is written as spells the settled selector. -/
theorem Reads.spells_encode {value : Json} {selector : Selector}
    (reads : Reads build value selector) (unclashing : Unclashing build (requests value))
    (representable : value.IsRepresentable) (doubles : DoublesReadBack selector.encode) :
    Spells build selector.encode (selector.settle build) := by
  have faithful := yields_decode value representable build _ selector (reads.after_calls [])
  have complete : firstMissing? selector.tests = none := by
    rw [firstMissing?_eq_none_iff]
    exact fun test isTest => (faithful test isTest).2
  have answers := answers_decode_encode selector (reads.patternsCompile unclashing)
  rw [complete] at answers
  exact ⟨answers, keysDistinct_encode selector,
    reads.numbersReadBack unclashing representable doubles⟩

/-! ## Printed fragments -/

theorem depth_cons_pos (branch : Branch) (rest : List Branch) : 1 ≤ depth (branch :: rest) := by
  rw [depth]
  cases branch <;> simp only [Branch.depth] <;> omega

/-- With any library, a selector is loaded from text. The compact text of each of its fragments is
loaded again, after any calls, as a selector equal to the fragment, with one exception: the fragment
is the whole selector and the object of a place in it is the innermost that the limit of nesting
allows. Then its text is no JSON that can be read. -/
theorem printed_subject_loads (build : Regex.Builder) {text : String} {value : Json}
    (parsed : Json.parse? text = some value) (slashFree : OptionsSlashFree value)
    {calls : List RegexCache.Call} {selector : Selector}
    (accepted : loadedAfter build calls text = .ok selector)
    {fragment : Selector} (isSubject : fragment ∈ selector.subjects)
    (doubles : DoublesReadBack fragment.encode) (later : List RegexCache.Call) :
    (¬ (fragment = selector ∧ selector.HasPlaceIn (Json.textNestingLimit - 1)) →
      ∃ read, loadedAfter build later fragment.encode.compact = .ok read ∧
        read.agrees fragment = true) ∧
    (fragment = selector → selector.HasPlaceIn (Json.textNestingLimit - 1) →
      loadedAfter build later fragment.encode.compact = .error .notJson) := by
  have reads := reads_of_loadedAfter parsed slashFree accepted
  have within := Json.nesting_le_of_parse? parsed
  have wholeFits : selector.encode.nesting ≤ Json.textNestingLimit ↔
      ¬ selector.HasPlaceIn (Json.textNestingLimit - 1) :=
    reads.nesting_encode_le_iff slashFree.unclashing within
  obtain ⟨_, position, _, found⟩ := exists_standsFor_of_mem_subjects isSubject
  obtain ⟨partValue, valueFound, partReads, partUnclashing⟩ :=
    reads.exists_value slashFree.unclashing found
  have partRepresentable :=
    holds_at isRepresentable_valuePart (Json.isRepresentable_of_parse? parsed) valueFound
  have loads := (partReads.spells_encode partUnclashing partRepresentable doubles).loads later
  constructor
  · intro fits
    have fragmentFits : fragment.encode.nesting ≤ Json.textNestingLimit := by
      cases position with
      | nil =>
          cases found
          exact wholeFits.mpr fun hasPlace => fits ⟨rfl, hasPlace⟩
      | cons branch rest =>
          have oneDeeper := partReads.nesting_encode_le partUnclashing
          have inside := nesting_valueAt valueFound
          have below := depth_cons_pos branch rest
          omega
    rw [if_pos fragmentFits] at loads
    exact ⟨_, loads, partReads.settle_agrees partRepresentable⟩
  · rintro rfl hasPlace
    have beyond : ¬ fragment.encode.nesting ≤ Json.textNestingLimit := by
      intro fits
      exact wholeFits.mp fits hasPlace
    rw [loads, if_neg beyond]

/-! ## Texts that load, and texts that do not -/

/-- A test for a size, beside a marked place, in the left side of a marked relation. -/
def sizedPlace : Json :=
  .object [("type", .string "child"),
    ("left", .object [("type", .string "compound"), ("selectors", .array [
      .object [("type", .string "nth-child"), ("index", Json.ofNat 2), ("subject", .bool true)],
      .object [("type", .string "attribute"), ("name", .string "size"), ("operator", .string "<"),
        ("value", .object [("type", .string "literal"), ("value", .number (.double 1.5))])]])]),
    ("right", .object [("type", .string "wildcard"), ("subject", .bool true)])]

/-- The fragment for the mark of the place. -/
def sizedPlaceLeft : Selector :=
  .group .allOf [.place .first 2 none true,
    .single (.attribute "size" (some .less) (some (.literal (.number 1.5)))) false] false

theorem readsBack_oneAndHalf : (Json.Number.double 1.5).ReadsBack := by
  have text : (Json.Number.double 1.5).text = ['1', '.', '5'] := by decide +kernel
  rw [Json.Number.ReadsBack, text]
  rfl

theorem parse?_sizedPlace : Json.parse? sizedPlace.compact = some sizedPlace := by
  have distinct : sizedPlace.KeysDistinct := by
    simp [sizedPlace, Json.KeysDistinct, Json.ItemKeysDistinct, Json.MemberKeysDistinct, Json.ofNat]
  have readBack : sizedPlace.NumbersReadBack := by
    intro number isNumber
    have isOne : number ∈ [.integer 2, .double 1.5] := isNumber
    rcases List.mem_pair.mp isOne with rfl | rfl
    · rfl
    · exact readsBack_oneAndHalf
  rw [Json.parse?_compact distinct readBack, if_pos (by decide +kernel)]

/-- The value in a negation. -/
def negated (value : Json) (subject : Bool) : Json :=
  tagged (.group .noneOf) [("selectors", .array [value])] subject

theorem Spells.negated {value : Json} {selector : Selector} (spells : Spells build value selector)
    (subject : Bool) :
    Spells build (negated value subject) (.group .noneOf [selector] subject) where
  reads := by
    rw [Reads, Selector.negated, decode_tagged rfl]
    refine Answers.bind ?_ (answers_pure _)
    rw [decodeList_eq, lookup?_taggedMembers (by decide) (by decide)]
    exact answers_decodeAll_of_reads (.cons spells.reads .nil)
  distinct := by
    apply keysDistinct_tagged
    · simp
    · simp [Json.keysDistinct_array_iff, spells.distinct]
  readBack := by
    show AllNumbers Json.Number.ReadsBack _
    rw [Selector.negated, allNumbers_tagged_iff, List.forall_mem_singleton, allNumbers_array_iff,
      List.forall_mem_singleton]
    exact spells.readBack

/-- The value in so many negations. -/
def negations : Nat → Json → Json
  | 0, value => value
  | count + 1, value => negated (negations count value) false

/-- The selector in so many negations. -/
def negationsOf : Nat → Selector → Selector
  | 0, selector => selector
  | count + 1, selector => .group .noneOf [negationsOf count selector] false

theorem Spells.negations {value : Json} {selector : Selector} (spells : Spells build value selector)
    (count : Nat) : Spells build (negations count value) (negationsOf count selector) := by
  induction count with
  | zero => exact spells
  | succ count inductionHypothesis => exact inductionHypothesis.negated false

/-- Negations that leave room for one object within the limit of nesting. The outermost is marked. -/
def deeply (value : Json) : Json :=
  negated (negations 62 value) true

/-- A place whose index is written alone. -/
def secondChild : Json :=
  .object [("type", .string "nth-child"), ("index", Json.ofNat 1)]

def secondPlace : Selector :=
  .place .first 1 none false

def deepPlace : Selector :=
  .group .noneOf [negationsOf 62 secondPlace] true

theorem encode_deepPlace : deepPlace.encode = deeply secondPlace.encode := by
  have inside (count : Nat) :
      (negationsOf count secondPlace).encode = negations count secondPlace.encode := by
    induction count with
    | zero => rfl
    | succ count inductionHypothesis =>
        rw [negationsOf, encode, encodeAll, encodeAll, inductionHypothesis]
        rfl
  rw [deepPlace, encode, encodeAll, encodeAll, inside]
  rfl

theorem spells_deeply {value : Json} (spells : Spells build value secondPlace) :
    Spells build (deeply value) deepPlace :=
  (spells.negations 62).negated true

theorem spells_secondChild (build : Regex.Builder) :
    Spells build secondChild secondPlace where
  reads := by
    rw [Reads, secondChild, @decode_of_tagged _ (.place .first) rfl]
    exact (answers_pure 1).bind ((answers_pure none).bind (answers_pure _))
  distinct := by
    simp [secondChild, Json.KeysDistinct, Json.MemberKeysDistinct, Json.ofNat]
  readBack := by
    intro number isNumber
    have isOne : number ∈ [.integer 1] := isNumber
    rw [List.mem_singleton.mp isOne]
    rfl

theorem spells_secondPlace (build : Regex.Builder) :
    Spells build secondPlace.encode secondPlace where
  reads := answers_decode_encode secondPlace fun _ isTest => absurd isTest List.not_mem_nil
  distinct := keysDistinct_encode secondPlace
  readBack := by
    intro number isNumber
    have isOne : number ∈ [.integer 1] := isNumber
    rw [List.mem_singleton.mp isOne]
    rfl

theorem deepPlace_hasPlace : deepPlace.HasPlaceIn (Json.textNestingLimit - 1) :=
  ⟨List.replicate 63 (.member 0), .first, 1, none, false, rfl, rfl⟩

/-- After a call, the text of the left side loads. The whole selector with the deep place does not
load from its own text. -/
theorem sizedPlaceLeft_loads_deepPlace_refused :
    OptionsSlashFree sizedPlace ∧
      (∃ selector, loadedAfter Expression.build [] sizedPlace.compact = .ok selector ∧
        sizedPlaceLeft ∈ selector.subjects) ∧
      DoublesReadBack sizedPlaceLeft.encode ∧
      (∃ read, loadedAfter Expression.build [.get "x" ""] sizedPlaceLeft.encode.compact = .ok read ∧
        read.agrees sizedPlaceLeft = true) ∧
      OptionsSlashFree (deeply secondChild) ∧
      loadedAfter Expression.build [] (deeply secondChild).compact = .ok deepPlace ∧
      deepPlace ∈ deepPlace.subjects ∧ DoublesReadBack deepPlace.encode ∧
      loadedAfter Expression.build [] deepPlace.encode.compact = .error .notJson := by
  have noPatterns : OptionsSlashFree sizedPlace := by
    intro request isRequest
    cases isRequest
  have loads : loadedAfter Expression.build [] sizedPlace.compact =
      .ok (.relation .child sizedPlaceLeft (.single .wildcard true) false) := by
    rw [loadedAfter_of_parse? parse?_sizedPlace]
    rfl
  have isSubject : sizedPlaceLeft ∈
      (Selector.relation .child sizedPlaceLeft (.single .wildcard true) false).subjects :=
    List.mem_cons_self
  have doubles : DoublesReadBack sizedPlaceLeft.encode := by
    intro number isNumber
    have isOne : Json.Number.double number ∈ [.integer 2, .double 1.5] := isNumber
    rcases List.mem_pair.mp isOne with same | same
    · cases same
    · rw [same]
      exact readsBack_oneAndHalf
  have noDeepPatterns : OptionsSlashFree (deeply secondChild) := by
    have none : requests (deeply secondChild) = [] := by decide +kernel
    intro request isRequest
    rw [none] at isRequest
    cases isRequest
  have spells := spells_deeply (spells_secondChild Expression.build)
  have within : (deeply secondChild).nesting ≤ Json.textNestingLimit := by decide +kernel
  have parsed : Json.parse? (deeply secondChild).compact = some (deeply secondChild) := by
    rw [Json.parse?_compact spells.distinct spells.readBack, if_pos within]
  have deepLoads :
      loadedAfter Expression.build [] (deeply secondChild).compact = .ok deepPlace := by
    rw [spells.loads, if_pos within]
  have isDeepSubject : deepPlace ∈ deepPlace.subjects := List.mem_cons_self
  have deepDoubles : DoublesReadBack deepPlace.encode := by
    rw [encode_deepPlace]
    have written := spells_deeply (spells_secondPlace Expression.build)
    exact fun number isNumber => written.readBack _ isNumber
  refine ⟨noPatterns, ⟨_, loads, isSubject⟩, doubles, ?_, noDeepPatterns, deepLoads, isDeepSubject,
    deepDoubles, ?_⟩
  · refine (printed_subject_loads _ parse?_sizedPlace noPatterns loads isSubject doubles _).1 ?_
    rintro ⟨same, _⟩
    cases same
  · exact (printed_subject_loads _ parsed noDeepPatterns deepLoads isDeepSubject deepDoubles _).2
      rfl deepPlace_hasPlace

/-- A marked group with a pattern whose options are refused. -/
def slashedGroup : Json :=
  .object [("type", .string "matches"), ("selectors", .array [patternTest "b" "/s"]),
    ("subject", .bool true)]

/-- The group as a left side, after a pattern that compiles and has the same key. -/
def slashedBehind : Json :=
  .object [("type", .string "compound"), ("selectors", .array [patternTest "s/b" "",
    .object [("type", .string "child"), ("left", slashedGroup),
      ("right", .object [("type", .string "wildcard")])]])]

/-- A test of names with a pattern. -/
def nameTest (source options : String) (regex : Regex) : Selector :=
  .single (.attribute "name" (some .equal) (some (.pattern ⟨source, options, regex⟩))) false

theorem parse?_slashedGroup : Json.parse? slashedGroup.compact = some slashedGroup := by
  have distinct : slashedGroup.KeysDistinct := by
    simp [slashedGroup, patternTest, Json.KeysDistinct, Json.ItemKeysDistinct,
      Json.MemberKeysDistinct]
  have noNumbers : slashedGroup.NumbersReadBack := by
    intro number isNumber
    cases isNumber
  rw [Json.parse?_compact distinct noNumbers, if_pos (by decide +kernel)]

theorem parse?_slashedBehind : Json.parse? slashedBehind.compact = some slashedBehind := by
  have distinct : slashedBehind.KeysDistinct := by
    simp [slashedBehind, slashedGroup, patternTest, Json.KeysDistinct, Json.ItemKeysDistinct,
      Json.MemberKeysDistinct]
  have noNumbers : slashedBehind.NumbersReadBack := by
    intro number isNumber
    cases isNumber
  rw [Json.parse?_compact distinct noNumbers, if_pos (by decide +kernel)]

/-- Two texts load of which a printed fragment does not: one has a place at the limit of nesting, and
one a pattern whose options are accepted for what was compiled before. -/
theorem printed_subjects_refused :
    (∃ selector, loadedAfter Expression.build [] (deeply secondChild).compact = .ok selector ∧
      selector ∈ selector.subjects ∧
      loadedAfter Expression.build [] selector.encode.compact = .error .notJson) ∧
    ∃ selector fragment, loadedAfter Expression.build [] slashedBehind.compact = .ok selector ∧
      fragment ∈ selector.subjects ∧
      loadedAfter Expression.build [] fragment.encode.compact =
        .error (.invalid (.invalidPattern "b" (.unsupportedFlag '/'))) := by
  constructor
  · have spells := spells_deeply (spells_secondChild Expression.build)
    have written := spells_deeply (spells_secondPlace Expression.build)
    refine ⟨deepPlace, ?_, List.mem_cons_self, ?_⟩
    · have loads := spells.loads []
      rwa [if_pos (by decide +kernel)] at loads
    · have refused := written.loads []
      rwa [if_neg (by decide +kernel), ← encode_deepPlace] at refused
  · obtain ⟨regex, loads⟩ : ∃ regex, loadedAfter Expression.build [] slashedBehind.compact =
        .ok (.group .allOf [nameTest "s/b" "" regex, .relation .child
          (.group .anyOf [nameTest "b" "/s" regex] true) (.single .wildcard false) false]
            false) := by
      rw [loadedAfter_of_parse? parse?_slashedBehind]
      exact ⟨_, rfl⟩
    refine ⟨_, .group .anyOf [nameTest "b" "/s" regex] true, loads, List.mem_cons_self, ?_⟩
    have written : (Selector.group .anyOf [nameTest "b" "/s" regex] true).encode = slashedGroup :=
      rfl
    rw [written, loadedAfter_of_parse? parse?_slashedGroup]
    rfl

end SyntaxQuery.Selector
