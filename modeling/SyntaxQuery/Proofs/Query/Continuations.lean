import SyntaxQuery.Document.Node
import SyntaxQuery.Proofs.Query.Steps
import SyntaxQuery.Proofs.Text.Segments

/-!
Contract: paths that go on from where another path leads.

The segments of a longer path are followed from the value that the shorter one leads to, and what is
absent or null stays what it is (`Value.follow_append`). The rules of going on are stated over whole
paths, by the value that is reached first (`ContinuesTo`).

Does not own: the single steps of a path.
-/

namespace SyntaxQuery

variable {ν : Type} [SyntaxNode ν]

namespace Value

variable {value : Value ν}

theorem follow_of_not_present (gone : value.isPresent = false) (segments : List String) :
    value.follow segments = value := by
  cases segments with
  | nil => rfl
  | cons segment rest => rw [follow, gone, if_neg Bool.false_ne_true]

theorem follow_append (value : Value ν) (first second : List String) :
    value.follow (first ++ second) = (value.follow first).follow second := by
  induction first generalizing value with
  | nil => rfl
  | cons segment rest inductionHypothesis =>
      rw [List.cons_append, follow, follow]
      split
      · exact inductionHypothesis (value.step segment)
      · next gone => rw [follow_of_not_present (Bool.eq_false_iff.mpr gone)]

/-- Where the first step leads to nothing, so does the path. -/
theorem follow_of_step_absent {segment : String} (isPresent : value.isPresent = true)
    (isAbsent : value.step segment = .absent) (rest : List String) :
    value.follow (segment :: rest) = .absent := by
  rw [follow, if_pos isPresent, isAbsent, follow_of_not_present rfl]

end Value

theorem resolve_append (node : ν) (first second : String) :
    resolve node (first ++ "." ++ second) =
      (resolve node first).follow (Text.segments second) := by
  rw [resolve, Text.segments_append, Value.follow_append]
  rfl

/-- Where a path leads from a value. What is absent or null stays what it is; a record resolves the
path; a list resolves a numeral in its range to the element, and what is behind the numeral from
there; a path from a boolean or a number leads nowhere, and so does one from a text unless it begins
with the length. -/
inductive ContinuesTo : Value ν → String → Value ν → Prop
  | stays {value : Value ν} (gone : value.isPresent = false) (path : String) :
      ContinuesTo value path value
  | record {value : Value ν} {record : ν} (isRecord : value.record? = some record)
      (path : String) : ContinuesTo value path (resolve record path)
  | element {items : List (Value ν)} {item : Value ν} {numeral : String} {index : Nat}
      (isNumeral : IsNumeral numeral index) (atIndex : items[index]? = some item) :
      ContinuesTo (.list items) numeral item
  | beyond {items : List (Value ν)} {item result : Value ν} {numeral rest : String} {index : Nat}
      (isNumeral : IsNumeral numeral index) (atIndex : items[index]? = some item)
      (continues : ContinuesTo item rest result) :
      ContinuesTo (.list items) (numeral ++ "." ++ rest) result
  | bool (held : Bool) (path : String) : ContinuesTo (.bool held) path .absent
  | number (held : Float) (path : String) : ContinuesTo (.number held) path .absent
  | text (held : String) {path : String}
      (notLength : (Text.segments path).head? ≠ some "length") :
      ContinuesTo (.string held) path .absent

namespace ContinuesTo

variable {value result : Value ν} {path : String}

theorem follow_eq (continues : ContinuesTo value path result) :
    value.follow (Text.segments path) = result := by
  induction continues with
  | stays gone path => exact Value.follow_of_not_present gone _
  | record isRecord path =>
      obtain ⟨segment, rest, isPath⟩ := List.exists_cons_of_ne_nil (Text.segments_ne_nil path)
      rw [resolve, isPath, Value.follow_of_record? isRecord]
      exact (Value.follow_of_record? rfl segment rest).symm
  | element isNumeral atIndex =>
      rw [Text.segments_of_pointFree (isNumeral.not_mem '.' rfl),
        Value.follow_list isNumeral atIndex]
      rfl
  | beyond isNumeral atIndex _ inductionHypothesis =>
      rw [Text.segments_append, Text.segments_of_pointFree (isNumeral.not_mem '.' rfl),
        List.singleton_append, Value.follow_list isNumeral atIndex]
      exact inductionHypothesis
  | bool held path =>
      obtain ⟨segment, rest, isPath⟩ := List.exists_cons_of_ne_nil (Text.segments_ne_nil path)
      rw [isPath]
      exact Value.follow_of_step_absent rfl rfl rest
  | number held path =>
      obtain ⟨segment, rest, isPath⟩ := List.exists_cons_of_ne_nil (Text.segments_ne_nil path)
      rw [isPath]
      exact Value.follow_of_step_absent rfl rfl rest
  | @text held path notLength =>
      obtain ⟨segment, rest, isPath⟩ := List.exists_cons_of_ne_nil (Text.segments_ne_nil path)
      rw [isPath] at notLength ⊢
      refine Value.follow_of_step_absent rfl ?_ rest
      exact if_neg fun isLength => notLength (congrArg some isLength)

end ContinuesTo

/-- A path that goes on behind another one leads where its rest leads from the value that the first
one leads to. -/
theorem resolve_continues (node : ν) (first second : String) (result : Value ν)
    (continues : ContinuesTo (resolve node first) second result) :
    resolve node (first ++ "." ++ second) = result := by
  rw [resolve_append]
  exact continues.follow_eq

/-- A call with a record that is no syntax node among its arguments. -/
def spreadCall : Json :=
  .object [("type", .string "CallExpression"), ("arguments", .array [.null,
    .array [.object [("loc", .object [("line", .null)])]]])]

/-- From the arguments a path goes on through two lists and two records to a null, where it stays. -/
theorem spreadCall_continues :
    ContinuesTo (resolve (⟨[], spreadCall⟩ : DocumentNode) "arguments")
        ("01" ++ "." ++ ("0" ++ "." ++ "loc.line.column")) .null ∧
      resolve (⟨[], spreadCall⟩ : DocumentNode)
        ("arguments" ++ "." ++ ("01" ++ "." ++ ("0" ++ "." ++ "loc.line.column"))) = .null := by
  let spread : DocumentNode :=
    ⟨[.member "arguments", .element 1, .element 0], .object [("loc", .object [("line", .null)])]⟩
  have isList : resolve (⟨[], spreadCall⟩ : DocumentNode) "arguments" =
      .list [.null, .list [.object spread]] := by
    rw [resolve, Text.segments_of_pointFree (by decide)]
    rfl
  have isNull : resolve spread "loc.line.column" = .null := by
    have segments : Text.segments "loc.line.column" = ["loc", "line", "column"] := by decide
    rw [resolve, segments]
    rfl
  have withinSpread : ContinuesTo (.object spread) "loc.line.column" .null := by
    rw [← isNull]
    exact .record rfl _
  have zero : IsNumeral "0" 0 := ⟨0, by decide⟩
  have one : IsNumeral "01" 1 := ⟨1, by decide⟩
  have continues : ContinuesTo (resolve (⟨[], spreadCall⟩ : DocumentNode) "arguments")
      ("01" ++ "." ++ ("0" ++ "." ++ "loc.line.column")) .null := by
    rw [isList]
    exact .beyond one rfl (.beyond zero rfl withinSpread)
  exact ⟨continues, resolve_continues _ _ _ _ continues⟩

end SyntaxQuery
