import SyntaxQuery.Query.Path

/-!
Contract: the records that segments lead to, one field after another.

The query engine searches for one record and answers whether it is found. Here the same search is a
relation between the record where it starts and all records where it may end, which can be taken
apart at either end (`leadsTo_iff`, `reaches_append`).

Does not own: paths to values that are no records.
-/

namespace SyntaxQuery

variable {ν : Type}

/-- The records in a value: the value itself, or the direct elements of a list. -/
def Value.records : Value ν → List ν
  | .list items => items.filterMap record?
  | value => value.record?.toList

theorem Value.nodes_subset_records (value : Value ν) : value.nodes ⊆ value.records := by
  intro held member
  cases value with
  | node other => exact member
  | list items =>
      obtain ⟨item, isItem, isNode⟩ := List.mem_filterMap.mp member
      refine List.mem_filterMap.mpr ⟨item, isItem, ?_⟩
      cases item with
      | node other => exact isNode
      | _ => cases isNode
  | _ => cases member

variable [SyntaxNode ν]

/-- Segments lead from a record to another, one field after another. -/
def Reaches : List String → ν → ν → Prop
  | [], top, record => top = record
  | segment :: rest, top, record =>
      ∃ next ∈ (SyntaxNode.field top segment).records, Reaches rest next record

theorem reaches_append (before after : List String) (top record : ν) :
    Reaches (before ++ after) top record ↔
      ∃ middle, Reaches before top middle ∧ Reaches after middle record := by
  induction before generalizing top with
  | nil => simp only [List.nil_append, Reaches, exists_eq_left']
  | cons segment rest inductionHypothesis =>
      simp only [List.cons_append, Reaches, inductionHypothesis]
      constructor
      · rintro ⟨next, held, middle, leads, onward⟩
        exact ⟨middle, ⟨next, held, leads⟩, onward⟩
      · rintro ⟨middle, ⟨next, held, leads⟩, onward⟩
        exact ⟨next, held, middle, leads, onward⟩

theorem reaches_concat (before : List String) (segment : String) (top record : ν) :
    Reaches (before ++ [segment]) top record ↔
      ∃ middle, Reaches before top middle ∧
        record ∈ (SyntaxNode.field middle segment).records := by
  rw [reaches_append]
  simp only [Reaches, exists_eq_right]

theorem leadsTo_eq_any_record (node : ν) (segments : List String) (value : Value ν) :
    leadsTo node segments value =
      value.record?.any fun record => leadsTo node segments (.node record) := by
  cases segments with
  | nil => cases value <;> rfl
  | cons segment rest => cases value <;> rfl

theorem leadsFromAny_iff {node : ν} {segments : List String} {value : Value ν} :
    leadsFromAny (leadsTo node segments) value = true ↔
      ∃ record ∈ value.records, leadsTo node segments (.node record) = true := by
  have single (other : Value ν) (records_eq : other.records = other.record?.toList) :
      leadsTo node segments other = true ↔
        ∃ record ∈ other.records, leadsTo node segments (.node record) = true := by
    rw [leadsTo_eq_any_record, Option.any_eq_true, records_eq]
    simp only [Option.mem_toList]
  cases value with
  | list items =>
      simp only [leadsFromAny, List.any_eq_true, Value.records, List.mem_filterMap]
      constructor
      · rintro ⟨item, isItem, found⟩
        rw [leadsTo_eq_any_record, Option.any_eq_true] at found
        obtain ⟨record, isRecord, leads⟩ := found
        exact ⟨record, ⟨item, isItem, isRecord⟩, leads⟩
      · rintro ⟨record, ⟨item, isItem, isRecord⟩, leads⟩
        refine ⟨item, isItem, ?_⟩
        rw [leadsTo_eq_any_record, Option.any_eq_true]
        exact ⟨record, isRecord, leads⟩
  | _ => exact single _ rfl

/-- A search for a node succeeds when the segments lead to a record at the node's place. -/
theorem leadsTo_iff {node top : ν} {segments : List String} :
    leadsTo node segments (.node top) = true ↔
      ∃ record, Reaches segments top record ∧ SyntaxNode.same record node = true := by
  induction segments generalizing top with
  | nil =>
      simp only [Reaches, exists_eq_left']
      rfl
  | cons segment rest inductionHypothesis =>
      show leadsFromAny (leadsTo node rest) (SyntaxNode.field top segment) = true ↔ _
      simp only [leadsFromAny_iff, inductionHypothesis, Reaches]
      constructor
      · rintro ⟨next, held, record, leads, same⟩
        exact ⟨record, ⟨next, held, leads⟩, same⟩
      · rintro ⟨record, ⟨next, held, leads⟩, same⟩
        exact ⟨next, held, record, leads, same⟩

end SyntaxQuery
