import SyntaxQuery.Document.Node
import SyntaxQuery.Expression.Reader
import SyntaxQuery.Proofs.Selector.Decoding

/-!
Contract: how far decoding a selector depends on the patterns that were compiled before.

Owns: the patterns that a value asks for, and that a value none of whose patterns clashes decodes
alike after all calls.
Does not own: the store itself.
-/

namespace SyntaxQuery.Selector

open Decoder

variable {build : Regex.Builder}

/-! ## The patterns that a value asks for -/

/-- The source and options of a pattern, alone or as members of an object. -/
def patternRequests (members : Members) : Json → List (String × String)
  | .string source => [(source, optionalText "flags" members)]
  | .object inner =>
      match (Json.lookup? "source" inner).bind Json.string? with
      | some source => [(source, optionalText "flags" inner)]
      | none => []
  | _ => []

/-- The pattern that an operand may be. -/
def operandRequests : Json → List (String × String)
  | .object members =>
      if (Json.lookup? "type" members).bind Json.string? = some "regexp" then
        patternRequests members ((Json.lookup? "value" members).getD .null)
      else []
  | _ => []

/-- The pattern among the members of an attribute test. -/
def attributeRequests (members : Members) : List (String × String) :=
  match Json.lookup? "value" members with
  | some value => operandRequests value
  | none => []

mutual

/-- The sources and options of the patterns in a selector's value, in the order of decoding. -/
def requests : Json → List (String × String)
  | .object members =>
      match ((Json.lookup? "type" members).bind Json.string?).bind Shape.ofTag? with
      | some .attribute => attributeRequests members
      | some (.group _) => listRequests "selectors" members
      | some (.relation _) => partRequests "left" members ++ partRequests "right" members
      | some (.place _) => partRequests "right" members
      | _ => []
  | _ => []

/-- The patterns in the selector under a key. -/
def partRequests (key : String) : Members → List (String × String)
  | [] => []
  | (name, value) :: rest => if name = key then requests value else partRequests key rest

/-- The patterns in the selectors of the array under a key. -/
def listRequests (key : String) : Members → List (String × String)
  | [] => []
  | (name, .array items) :: rest => if name = key then allRequests items else listRequests key rest
  | (name, _) :: rest => if name = key then [] else listRequests key rest

def allRequests : List Json → List (String × String)
  | [] => []
  | item :: rest => requests item ++ allRequests rest

end

theorem partRequests_eq (key : String) (members : Members) :
    partRequests key members =
      match Json.lookup? key members with
      | none => []
      | some value => requests value := by
  induction members with
  | nil => rfl
  | cons first rest inductionHypothesis =>
      obtain ⟨name, value⟩ := first
      rw [partRequests, Json.lookup?, inductionHypothesis]
      split <;> rfl

theorem listRequests_eq (key : String) (members : Members) :
    listRequests key members =
      match Json.lookup? key members with
      | some (.array items) => allRequests items
      | _ => [] := by
  induction members with
  | nil => rfl
  | cons first rest inductionHypothesis =>
      obtain ⟨name, value⟩ := first
      by_cases isKey : name = key
      · cases value <;> simp only [listRequests, Json.lookup?, if_pos isKey]
      · cases value <;> simp only [listRequests, Json.lookup?, if_neg isKey, inductionHypothesis]

/-- The patterns that an object of a shape asks for. -/
def shapeRequests (members : Members) : Shape → List (String × String)
  | .attribute => attributeRequests members
  | .group _ => listRequests "selectors" members
  | .relation _ => partRequests "left" members ++ partRequests "right" members
  | .place _ => partRequests "right" members
  | _ => []

theorem requests_object (members : Members) :
    requests (.object members) =
      match ((Json.lookup? "type" members).bind Json.string?).bind Shape.ofTag? with
      | none => []
      | some shape => shapeRequests members shape := by
  rw [requests]
  cases ((Json.lookup? "type" members).bind Json.string?).bind Shape.ofTag? with
  | none => rfl
  | some shape => cases shape <;> rfl

/-- None of the patterns clashes with a library. -/
def Unclashing (build : Regex.Builder) (patterns : List (String × String)) : Prop :=
  ∀ request ∈ patterns, ¬ RegexCache.Clashes build request.1 request.2

theorem unclashing_append {left right : List (String × String)} :
    Unclashing build (left ++ right) ↔ Unclashing build left ∧ Unclashing build right := by
  unfold Unclashing
  exact List.forall_mem_append

/-! ## Decoding without clashes -/

theorem steady_requiredText (kind key : String) (members : Members) :
    (requiredText kind key members).Steady build := by
  unfold requiredText
  split
  · exact steady_pure _
  · exact steady_throw _

theorem steady_indexMember (kind : String) (members : Members) :
    (indexMember kind members).Steady build := by
  unfold indexMember
  split
  · exact steady_throw _
  · dsimp only
    split
    · exact steady_pure _
    · exact steady_throw _

theorem steady_requirePart (kind key : String) (part? : Option Selector) :
    (requirePart kind key part?).Steady build := by
  unfold requirePart
  split
  · exact steady_pure _
  · exact steady_throw _

theorem steady_decodePattern (members : Members) (value : Json)
    (unclashing : Unclashing build (patternRequests members value)) :
    (decodePattern members value).Steady build := by
  cases value with
  | string source => exact (answers_pattern (unclashing _ List.mem_cons_self)).steady
  | object inner =>
      rw [decodePattern]
      rw [patternRequests] at unclashing
      split
      · next source found =>
          rw [found] at unclashing
          exact (answers_pattern (unclashing _ List.mem_cons_self)).steady
      · exact steady_throw _
  | _ => exact steady_throw _

theorem steady_decodeLiteral (value : Json) : (decodeLiteral value).Steady build := by
  cases value with
  | null => exact steady_pure _
  | bool value => exact steady_pure _
  | number value => exact steady_pure _
  | string value => exact steady_pure _
  | array items => exact steady_throw _
  | object members => exact steady_throw _

theorem steady_decodeOperand (value : Json)
    (unclashing : Unclashing build (operandRequests value)) :
    (decodeOperand value).Steady build := by
  cases value with
  | object members =>
      rw [decodeOperand]
      rw [operandRequests] at unclashing
      split
      · exact steady_throw _
      · next tag found =>
          rw [found] at unclashing
          split
          · next isPattern =>
              rw [isPattern, if_pos rfl] at unclashing
              exact (steady_decodePattern members _ unclashing).bind fun _ => steady_pure _
          · split
            · exact (steady_decodeLiteral _).bind fun _ => steady_pure _
            · split
              · split
                · exact steady_pure _
                · exact steady_throw _
              · exact steady_throw _
  | _ => exact steady_throw _

theorem steady_decodeOperator (members : Members) : (decodeOperator members).Steady build := by
  unfold decodeOperator
  split
  · exact steady_pure _
  · exact steady_pure _
  · split
    · exact steady_pure _
    · exact steady_throw _
  · exact steady_throw _

theorem steady_decodeOperandMember (members : Members)
    (unclashing : Unclashing build (attributeRequests members)) :
    (decodeOperandMember members).Steady build := by
  unfold decodeOperandMember
  unfold attributeRequests at unclashing
  split
  · exact steady_pure _
  · exact steady_pure _
  · next value _ found =>
      rw [found] at unclashing
      exact (steady_decodeOperand value unclashing).bind fun _ => steady_pure _

theorem steady_decodeAttribute (members : Members)
    (unclashing : Unclashing build (attributeRequests members)) :
    (decodeAttribute members).Steady build := by
  rw [decodeAttribute_eq]
  refine (steady_requiredText _ _ _).bind fun path => ?_
  refine (steady_decodeOperator members).bind fun operator? => ?_
  refine (steady_decodeOperandMember members unclashing).bind fun operand? => ?_
  split
  · exact steady_throw _
  · exact steady_pure _

/-- A part is steady if the value under its key decodes so. -/
theorem steady_decodePart {key : String} {members : Members}
    (valueSteady : ∀ value, Json.lookup? key members = some value → (decode value).Steady build) :
    (decodePart key members).Steady build := by
  rw [decodePart_eq]
  split
  · exact steady_pure _
  · next value found =>
      split
      · exact steady_pure _
      · exact (valueSteady value found).bind fun _ => steady_pure _

theorem steady_decodeAll {items : List Json} (each : ∀ item ∈ items, (decode item).Steady build) :
    (decodeAll items).Steady build := by
  induction items with
  | nil => exact steady_pure _
  | cons item rest inductionHypothesis =>
      rw [decodeAll]
      refine (each item List.mem_cons_self).bind fun first => ?_
      refine (inductionHypothesis fun other member => ?_).bind fun _ => steady_pure _
      exact each other (List.mem_cons_of_mem item member)

theorem unclashing_of_allRequests {items : List Json}
    (unclashing : Unclashing build (allRequests items)) {item : Json} (member : item ∈ items) :
    Unclashing build (requests item) := by
  induction items with
  | nil => cases member
  | cons first rest inductionHypothesis =>
      rw [allRequests, unclashing_append] at unclashing
      rcases List.mem_cons.mp member with rfl | later
      · exact unclashing.1
      · exact inductionHypothesis unclashing.2 later

theorem steady_decodeShape (tag : String) (members : Members) (subject : Bool) (shape : Shape)
    (unclashing : Unclashing build (shapeRequests members shape))
    (partSteady : ∀ key, Unclashing build (partRequests key members) →
      (decodePart key members).Steady build)
    (listSteady : ∀ kind key, Unclashing build (listRequests key members) →
      (decodeList kind key members).Steady build) :
    (decodeShape tag members subject shape).Steady build := by
  cases shape with
  | wildcard => exact steady_pure _
  | identifier => exact (steady_requiredText _ _ _).bind fun _ => steady_pure _
  | field => exact (steady_requiredText _ _ _).bind fun _ => steady_pure _
  | «attribute» => exact (steady_decodeAttribute members unclashing).bind fun _ => steady_pure _
  | group grouping => exact (listSteady tag "selectors" unclashing).bind fun _ => steady_pure _
  | relation combinator =>
      obtain ⟨leftUnclashing, rightUnclashing⟩ := unclashing_append.1 unclashing
      refine (partSteady "left" leftUnclashing).bind fun left? => ?_
      refine (steady_requirePart tag "left" left?).bind fun left => ?_
      refine (partSteady "right" rightUnclashing).bind fun right? => ?_
      exact (steady_requirePart tag "right" right?).bind fun right => steady_pure _
  | place edge =>
      refine (steady_indexMember tag members).bind fun index => ?_
      exact (partSteady "right" unclashing).bind fun _ => steady_pure _

/-- A value none of whose patterns clashes decodes alike on all sound stores. -/
theorem steady_decode : ∀ value : Json,
    Unclashing build (requests value) → (decode value).Steady build
  | .object members, unclashing => by
      have partSteady (key : String) (partUnclashing : Unclashing build (partRequests key members)) :
          (decodePart key members).Steady build := by
        refine steady_decodePart fun value found => ?_
        have smaller : value.size < (Json.object members).size := Json.size_lt_of_member found
        refine steady_decode value ?_
        rwa [partRequests_eq, found] at partUnclashing
      have listSteady (kind key : String)
          (listUnclashing : Unclashing build (listRequests key members)) :
          (decodeList kind key members).Steady build := by
        rw [decodeList_eq]
        rw [listRequests_eq] at listUnclashing
        split
        · next items found =>
            have smaller : (Json.array items).size < (Json.object members).size :=
              Json.size_lt_of_member found
            rw [found] at listUnclashing
            refine steady_decodeAll fun item member => ?_
            have within := Json.size_le_itemsSize member
            exact steady_decode item (unclashing_of_allRequests listUnclashing member)
        · exact steady_throw _
      rw [decode_object]
      rw [requests_object] at unclashing
      split
      · exact steady_throw _
      · next tag tagFound =>
          rw [tagFound, Option.bind_some] at unclashing
          split
          · exact steady_throw _
          · next shape shapeFound =>
              rw [shapeFound] at unclashing
              exact steady_decodeShape tag members _ shape unclashing partSteady listSteady
  | .null, _ => steady_throw _
  | .bool _, _ => steady_throw _
  | .number _, _ => steady_throw _
  | .string _, _ => steady_throw _
  | .array _, _ => steady_throw _
termination_by value => value.size
decreasing_by
  · exact smaller
  · simp only [Json.size] at smaller ⊢
    omega

/-! ## Answers and decodings after any calls -/

/-- What earlier calls change, with any library. An answer differs from that of an empty store
exactly if the options have a slash and their key is in the store, and it does so after some calls
exactly if the pattern clashes. No decoding differs none of whose patterns clashes. -/
theorem answers_and_decodings_after_calls (build : Regex.Builder) (calls : List RegexCache.Call)
    (source options : String) (value : Json) :
    ((RegexCache.after build calls).answer build source options =
        RegexCache.empty.answer build source options ↔
      ¬ ('/' ∈ options.toList ∧
        ((RegexCache.after build calls).find? (RegexCache.key source options)).isSome)) ∧
    ((∃ others, (RegexCache.after build others).answer build source options ≠
        RegexCache.empty.answer build source options) ↔
      RegexCache.Clashes build source options) ∧
    (Unclashing build (requests value) →
      decodedAfter build calls value = decodedAfter build [] value) := by
  refine ⟨(RegexCache.sound_after build calls).answer_eq_iff source options,
    RegexCache.exists_answer_ne_iff source options, ?_⟩
  intro unclashing
  obtain ⟨answer, answers⟩ := steady_decode value unclashing
  rw [decodedAfter_of_answers answers, decodedAfter_of_answers answers]

/-- The value of an attribute test with a pattern. -/
def patternTest (source options : String) : Json :=
  .object [("type", .string "attribute"), ("name", .string "name"), ("operator", .string "="),
    ("value", .object [("type", .string "regexp"), ("value", .string source),
      ("flags", .string options)])]

/-- A pattern whose source has a slash, but not its options, decodes after a call as before it. -/
theorem patternTest_decodes_after_call :
    Unclashing Expression.build (requests (patternTest "a/b" "i")) ∧
      decodedAfter Expression.build [.get "b" "i"] (patternTest "a/b" "i") =
        decodedAfter Expression.build [] (patternTest "a/b" "i") := by
  have unclashing : Unclashing Expression.build (requests (patternTest "a/b" "i")) := by
    obtain ⟨regex, compiled⟩ : ∃ regex, Regex.compile Expression.build "a/b" "i" = .ok regex :=
      ⟨_, rfl⟩
    show Unclashing Expression.build [("a/b", "i")]
    exact List.forall_mem_singleton.mpr (RegexCache.not_clashes_of_compile compiled)
  exact ⟨unclashing,
    (answers_and_decodings_after_calls _ [.get "b" "i"] "a/b" "i" _).2.2 unclashing⟩

/-- After the pattern `i/x` without options, the pattern `x` under the options `/i` is accepted, and
so is a test with it. An empty store refuses both. -/
theorem slash_in_options_accepted_after_call :
    (∃ regex, (RegexCache.after Expression.build [.get "i/x" ""]).answer Expression.build "x" "/i" =
        .ok regex) ∧
      RegexCache.empty.answer Expression.build "x" "/i" = .error (.unsupportedFlag '/') ∧
      (∃ selector, decodedAfter Expression.build [.get "i/x" ""] (patternTest "x" "/i") =
        .ok selector) ∧
      decodedAfter Expression.build [] (patternTest "x" "/i") =
        .error (.invalidPattern "x" (.unsupportedFlag '/')) :=
  ⟨⟨_, rfl⟩, rfl, ⟨_, rfl⟩, rfl⟩

end SyntaxQuery.Selector
