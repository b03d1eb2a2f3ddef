import SyntaxQuery.Document.Node
import SyntaxQuery.Proofs.Query.Records
import SyntaxQuery.Proofs.Query.Steps
import SyntaxQuery.Proofs.Text.Segments

/-!
Contract: searches along segments, and the paths that single out what they find.

Where a segment leads to a list, a search tries every element and a path has to name one. So a
search finds a node exactly when a path leads there that has an index after each such segment and
is the searched one otherwise (`Expands.leadsTo`, `exists_expands_of_leadsTo`).

Does not own: the single steps of a path.
-/

namespace SyntaxQuery

variable {ν : Type}

theorem leadsFromAny_of_no_list {value : Value ν} (noList : value.list? = none)
    (leads : Value ν → Bool) : leadsFromAny leads value = leads value := by
  cases value with
  | list items => cases noList
  | _ => rfl

variable [SyntaxNode ν]

/-- The value is a record at the place of the node. -/
def Value.Denotes (value : Value ν) (node : ν) : Prop :=
  ∃ record, value.record? = some record ∧ SyntaxNode.same record node = true

/-- From the value on, the path has the segments in their order and an index more after each one
whose field holds a list: a numeral of a number in the range of the list. Every segment is applied
to a record. -/
inductive Expands : Value ν → List String → List String → Prop
  | done (value : Value ν) : Expands value [] []
  | field {value : Value ν} {record : ν} {segment : String} {rest path : List String}
      (isRecord : value.record? = some record)
      (noList : (SyntaxNode.field record segment).list? = none)
      (expands : Expands (SyntaxNode.field record segment) rest path) :
      Expands value (segment :: rest) (segment :: path)
  | element {value item : Value ν} {record : ν} {segment numeral : String} {index : Nat}
      {items : List (Value ν)} {rest path : List String}
      (isRecord : value.record? = some record)
      (held : SyntaxNode.field record segment = .list items)
      (isNumeral : IsNumeral numeral index) (atIndex : items[index]? = some item)
      (expands : Expands item rest path) :
      Expands value (segment :: rest) (segment :: numeral :: path)

namespace Expands

variable {value : Value ν} {segments path : List String}

theorem nonempty (expands : Expands value segments path) (isNonempty : segments ≠ []) :
    path ≠ [] := by
  cases expands with
  | done => exact absurd rfl isNonempty
  | field => exact List.cons_ne_nil _ _
  | element => exact List.cons_ne_nil _ _

theorem pointFree (expands : Expands value segments path)
    (segmentsPointFree : ∀ segment ∈ segments, '.' ∉ segment.toList) :
    ∀ step ∈ path, '.' ∉ step.toList := by
  induction expands with
  | done value => exact segmentsPointFree
  | field _ _ _ inductionHypothesis =>
      obtain ⟨first, others⟩ := List.forall_mem_cons.mp segmentsPointFree
      exact List.forall_mem_cons.mpr ⟨first, inductionHypothesis others⟩
  | element _ _ isNumeral _ _ inductionHypothesis =>
      obtain ⟨first, others⟩ := List.forall_mem_cons.mp segmentsPointFree
      exact List.forall_mem_cons.mpr
        ⟨first, List.forall_mem_cons.mpr ⟨isNumeral.not_mem '.' rfl, inductionHypothesis others⟩⟩

end Expands

/-! ## Searches -/

variable {value : Value ν} {record node : ν} {segments : List String}

theorem leadsTo_nil : leadsTo node [] value = true ↔ value.Denotes node :=
  Option.any_eq_true _ _

theorem leadsTo_of_record? (isRecord : value.record? = some record) (segment : String)
    (rest : List String) :
    leadsTo node (segment :: rest) value =
      leadsFromAny (leadsTo node rest) (SyntaxNode.field record segment) := by
  rw [leadsTo, isRecord]

theorem leadsTo_of_no_record (noRecord : value.record? = none) :
    leadsTo node segments value = false := by
  rw [leadsTo_eq_any_record, noRecord]
  rfl

/-- A search finds what a path that expands its segments leads to. -/
theorem Expands.leadsTo {path : List String} (expands : Expands value segments path)
    (denotes : (value.follow path).Denotes node) : leadsTo node segments value = true := by
  induction expands with
  | done value => exact leadsTo_nil.mpr denotes
  | field isRecord noList _ inductionHypothesis =>
      rw [Value.follow_of_record? isRecord] at denotes
      rw [leadsTo_of_record? isRecord, leadsFromAny_of_no_list noList]
      exact inductionHypothesis denotes
  | element isRecord held isNumeral atIndex _ inductionHypothesis =>
      rw [Value.follow_of_record? isRecord, held, Value.follow_list isNumeral atIndex] at denotes
      rw [leadsTo_of_record? isRecord, held]
      exact List.any_eq_true.mpr
        ⟨_, List.mem_of_getElem? atIndex, inductionHypothesis denotes⟩

/-- What a search finds is at the end of a path that expands its segments. -/
theorem exists_expands_of_leadsTo (leads : leadsTo node segments value = true) :
    ∃ path, Expands value segments path ∧ (value.follow path).Denotes node := by
  induction segments generalizing value with
  | nil => exact ⟨[], .done value, leadsTo_nil.mp leads⟩
  | cons segment rest inductionHypothesis =>
      cases isRecord : value.record? with
      | none =>
          rw [leadsTo_of_no_record isRecord] at leads
          cases leads
      | some record =>
          rw [leadsTo_of_record? isRecord] at leads
          cases isList : (SyntaxNode.field record segment).list? with
          | none =>
              rw [leadsFromAny_of_no_list isList] at leads
              obtain ⟨path, expands, denotes⟩ := inductionHypothesis leads
              refine ⟨segment :: path, .field isRecord isList expands, ?_⟩
              rwa [Value.follow_of_record? isRecord]
          | some items =>
              have held := Value.eq_list_of_list? isList
              rw [held] at leads
              obtain ⟨item, isItem, leads⟩ := List.any_eq_true.mp leads
              obtain ⟨index, atIndex⟩ := List.mem_iff_getElem?.mp isItem
              obtain ⟨path, expands, denotes⟩ := inductionHypothesis leads
              refine ⟨segment :: Nat.repr index :: path,
                .element isRecord held (.repr index) atIndex expands, ?_⟩
              rwa [Value.follow_of_record? isRecord, held, Value.follow_list (.repr index) atIndex]

/-- A search that meets no list follows its segments as a path. -/
theorem leadsTo_iff_of_no_lists
    (noLists : ∀ taken, taken <+: segments → (value.follow taken).list? = none) :
    leadsTo node segments value = true ↔ (value.follow segments).Denotes node := by
  induction segments generalizing value with
  | nil => exact leadsTo_nil
  | cons segment rest inductionHypothesis =>
      cases isRecord : value.record? with
      | none =>
          have noList : value.list? = none := noLists [] List.nil_prefix
          rw [leadsTo_of_no_record isRecord, Value.Denotes,
            Value.record?_follow_scalar isRecord noList]
          constructor
          · exact fun leads => nomatch leads
          · rintro ⟨_, isFound, _⟩
            cases isFound
      | some record =>
          have restNoLists (taken : List String) (isPrefix : taken <+: rest) :
              ((SyntaxNode.field record segment).follow taken).list? = none := by
            rw [← Value.follow_of_record? isRecord]
            exact noLists _ ((List.prefix_cons_inj segment).mpr isPrefix)
          have noList : (SyntaxNode.field record segment).list? = none :=
            restNoLists [] List.nil_prefix
          rw [leadsTo_of_record? isRecord, Value.follow_of_record? isRecord,
            leadsFromAny_of_no_list noList]
          exact inductionHypothesis restNoLists

/-! ## Dotted paths -/

theorem resolve_intercalate (isRecord : value.record? = some record) (nonempty : segments ≠ [])
    (pointFree : ∀ segment ∈ segments, '.' ∉ segment.toList) :
    resolve record (".".intercalate segments) = value.follow segments := by
  obtain ⟨segment, rest, rfl⟩ := List.exists_cons_of_ne_nil nonempty
  rw [resolve, Text.segments_intercalate nonempty pointFree, Value.follow_of_record? isRecord]
  exact Value.follow_of_record? rfl segment rest

/-- A search from a record finds a node exactly when some dotted path leads there, which names an
element wherever the search tries all elements of a list. Where it meets no list, the path is the
searched one. -/
theorem search_iff_dotted_path (value : Value ν) (record node : ν) (segments : List String)
    (isRecord : value.record? = some record) (nonempty : segments ≠ [])
    (pointFree : ∀ segment ∈ segments, '.' ∉ segment.toList) :
    (leadsTo node segments value = true ↔ ∃ path, Expands value segments path ∧
      (resolve record (".".intercalate path)).Denotes node) ∧
    ((∀ taken, taken <+: segments → (value.follow taken).list? = none) →
      (leadsTo node segments value = true ↔
        (resolve record (".".intercalate segments)).Denotes node)) := by
  have resolve_eq {path : List String} (expands : Expands value segments path) :
      resolve record (".".intercalate path) = value.follow path :=
    resolve_intercalate isRecord (expands.nonempty nonempty) (expands.pointFree pointFree)
  constructor
  · constructor
    · intro leads
      obtain ⟨path, expands, denotes⟩ := exists_expands_of_leadsTo leads
      rw [← resolve_eq expands] at denotes
      exact ⟨path, expands, denotes⟩
    · rintro ⟨path, expands, denotes⟩
      rw [resolve_eq expands] at denotes
      exact expands.leadsTo denotes
  · intro noLists
    rw [leadsTo_iff_of_no_lists noLists, resolve_intercalate isRecord nonempty pointFree]

/-- A switch with a gap among its cases. -/
def gappedSwitch : Json :=
  .object [("type", .string "SwitchStatement"),
    ("discriminant", .object [("type", .string "Identifier")]),
    ("cases", .array [.null, .object [("type", .string "SwitchCase"),
      ("consequent", .array [.object [("type", .string "BreakStatement")]])]])]

/-- The statement of the case is found by a path with two indices, the discriminant by the searched
segment alone. -/
theorem dotted_paths_in_gappedSwitch :
    (∃ path,
      Expands (.node (⟨[], gappedSwitch⟩ : DocumentNode)) ["cases", "consequent"] path ∧
      (resolve (⟨[], gappedSwitch⟩ : DocumentNode) (".".intercalate path)).Denotes
        ⟨[.member "cases", .element 1, .member "consequent", .element 0],
          .object [("type", .string "BreakStatement")]⟩) ∧
    (resolve (⟨[], gappedSwitch⟩ : DocumentNode) "discriminant").Denotes
      ⟨[.member "discriminant"], .object [("type", .string "Identifier")]⟩ := by
  let switch : DocumentNode := ⟨[], gappedSwitch⟩
  constructor
  · exact (search_iff_dotted_path (.node switch) switch _ ["cases", "consequent"] rfl (by decide)
      (by decide)).1.mp rfl
  · refine ((search_iff_dotted_path (.node switch) switch _ ["discriminant"] rfl (by decide)
      (by decide)).2 ?_).mp rfl
    intro taken isPrefix
    rcases List.prefix_cons_iff.mp isPrefix with rfl | ⟨rest, rfl, isEmpty⟩
    · rfl
    · cases List.prefix_nil.mp isEmpty
      rfl

end SyntaxQuery
