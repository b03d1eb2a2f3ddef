import SyntaxQuery.Config.Basic
import SyntaxQuery.Proofs.Document.Distinctness
import SyntaxQuery.Proofs.Query.Composition

/-!
Contract: validated settings make no traversal enter a node twice.

Validation finds every field that a list repeats, so the lists of settings without issues name each
field once, and so do those of the standard table. A document schema built from both keeps this, and
with it no position is entered twice, nor reported twice by a query without marks
(`valid_config_visits_once`).

Does not own: the order of the issues.
-/

namespace SyntaxQuery

namespace Config

/-- The fields of a list have no issue exactly when none is blank, none was met before, and none is
repeated. -/
theorem fieldIssues_eq_nil_iff {nodeType : String} {met fields : List String} :
    fieldIssues nodeType met fields = [] ↔
      (∀ field ∈ fields, Text.blank field = false ∧ field ∉ met) ∧ fields.Nodup := by
  induction fields generalizing met with
  | nil => simp [fieldIssues]
  | cons field rest inductionHypothesis =>
      rw [fieldIssues, List.forall_mem_cons, List.nodup_cons]
      split
      · next isBlank => simp [isBlank]
      · next notBlank =>
          split
          · next repeated => simp_all
          · next fresh =>
              rw [inductionHypothesis]
              -- A later field must not be this one, which makes this one unrepeated.
              simp only [List.mem_cons, not_or, List.contains_iff_mem, Bool.not_eq_true] at *
              constructor
              · rintro ⟨restFresh, restOnce⟩
                refine ⟨⟨⟨notBlank, fresh⟩, fun other member => ?_⟩, fun member => ?_, restOnce⟩
                · exact ⟨(restFresh other member).1, (restFresh other member).2.2⟩
                · exact (restFresh field member).2.1 rfl
              · rintro ⟨⟨_, restFresh⟩, unrepeated, restOnce⟩
                refine ⟨fun other member => ?_, restOnce⟩
                have differs : other ≠ field := fun same => unrepeated (same ▸ member)
                exact ⟨(restFresh other member).1, differs, (restFresh other member).2⟩

theorem nodup_of_typeIssues_eq_nil {entry : String × List String}
    (noIssues : typeIssues entry = []) : entry.2.Nodup := by
  unfold typeIssues at noIssues
  split at noIssues
  · cases noIssues
  · exact (fieldIssues_eq_nil_iff.mp noIssues).2

/-- The schema of settings without issues names each field once. -/
theorem namesOnce_schema {config : Config} (valid : config.issues = []) :
    config.schema.NamesOnce := by
  intro entry isListed
  rcases List.mem_append.mp isListed with inSettings | isStandard
  · exact nodup_of_typeIssues_eq_nil
      (List.flatMap_eq_nil_iff.mp valid entry (List.mem_reverse.mp inSettings))
  · exact DocumentSchema.namesOnce_standard entry isStandard

end Config

/-- Under settings without issues a traversal of a document enters each position at most once, also
if it is refused. If it is not, a query without marks has a report, in which no position is
repeated. -/
theorem valid_config_visits_once (config : Config) (valid : config.issues = []) (document : Json)
    (distinct : document.KeysDistinct) (root : DocumentNode)
    (isRoot : DocumentNode.root? document = some root) :
    ((enteredNodes config.schema.childFields root).map DocumentNode.position).Nodup ∧
      ((traversalEvents config.schema.childFields root).refusal? = none →
        ∀ selector : Selector, selector.Unmarked → ∃ reported,
          matchTree config.schema.childFields selector root = .ok reported ∧
            (reported.map DocumentNode.position).Nodup) := by
  have once := nodup_positions isRoot distinct fun node nodeDistinct fields accepted =>
    (Config.namesOnce_schema valid).nodup_childFields nodeDistinct accepted
  constructor
  · rw [enteredNodes_eq_map_visits, List.map_map]
    exact once
  · intro accepted selector unmarked
    refine ⟨_, matchTree_of_unmarked accepted unmarked, ?_⟩
    rw [passedNodes, List.map_map]
    exact once.sublist (List.filter_sublist.map _)

/-- Settings that give the elements of an array a type beside them. -/
def typedArrays : Config :=
  { Config.default with visitorKeys := [("ArrayExpression", ["elements", "typeAnnotation"])] }

/-- The two names are entered and reported once under these settings. -/
theorem typedArrays_visits_twoNames_once :
    typedArrays.issues = [] ∧ twoNames.KeysDistinct ∧
      DocumentNode.root? twoNames = some ⟨[], twoNames⟩ ∧
      ((enteredNodes typedArrays.schema.childFields ⟨[], twoNames⟩).map
        DocumentNode.position).Nodup ∧
      (traversalEvents typedArrays.schema.childFields ⟨[], twoNames⟩).refusal? = none ∧
      ∃ reported,
        matchTree typedArrays.schema.childFields (.single (.identifier "Identifier") false)
          ⟨[], twoNames⟩ = .ok reported ∧ (reported.map DocumentNode.position).Nodup := by
  have valid : typedArrays.issues = [] := by decide
  have distinct : twoNames.KeysDistinct := by
    simp [twoNames, Json.KeysDistinct, Json.ItemKeysDistinct, Json.MemberKeysDistinct]
  have isRoot : DocumentNode.root? twoNames = some ⟨[], twoNames⟩ := rfl
  let name (index : Nat) : DocumentNode :=
    ⟨[.member "elements", .element index], .object [("type", .string "Identifier")]⟩
  have elements : children typedArrays.schema.childFields ⟨[], twoNames⟩ = .ok [name 0, name 1] :=
    rfl
  have below (index : Nat) : children typedArrays.schema.childFields (name index) = .ok [] := rfl
  have accepted :
      (traversalEvents typedArrays.schema.childFields ⟨[], twoNames⟩).refusal? = none := by
    rw [(traversal_tracks _ _).refusal, visits_of_children elements]
    simp only [List.map_cons, List.map_nil]
    rw [visits_of_children (below 0), visits_of_children (below 1)]
    rfl
  obtain ⟨once, reportedOnce⟩ :=
    valid_config_visits_once typedArrays valid twoNames distinct _ isRoot
  exact ⟨valid, distinct, isRoot, once, accepted, reportedOnce accepted _ rfl⟩

end SyntaxQuery
