import Mathlib.Data.String.Basic
import SyntaxQuery.Config.Decode
import SyntaxQuery.Proofs.Config.SingleVisits
import SyntaxQuery.Toml.Reader

/-!
Contract: which issues validation finds, in which order, and how many of each.

What is wrong with a field depends on the fields listed before it alone (`issuesAt`), so the issues
of a list are those of its places, in order (`expectedIssues`). Validation carries the fields it has
met. They stand for the ones listed before, blank ones apart: that is the invariant of its loop.

Does not own: what valid settings mean for traversals.
-/

namespace SyntaxQuery

/-! ## Issues by place -/

namespace Config

/-- What is wrong with a field of a node type that is listed behind some others. -/
def issuesAt (nodeType : String) (before : List String) (field : String) : List ConfigIssue :=
  if Text.blank field then [.emptyFieldName nodeType]
  else if field ∈ before then [.duplicateField nodeType field]
  else []

/-- The issues of a node type and its fields: that the type is blank, or those of each place. -/
def expectedIssues (entry : String × List String) : List ConfigIssue :=
  if Text.blank entry.1 then [.emptyNodeType]
  else entry.2.zipIdx.flatMap fun listed => issuesAt entry.1 (entry.2.take listed.2) listed.1

/-- The fields met after one more field. -/
def meet (met : List String) (field : String) : List String :=
  if Text.blank field ∨ field ∈ met then met else field :: met

theorem mem_meet {met : List String} {field other : String} (notBlank : Text.blank other = false) :
    other ∈ meet met field ↔ other ∈ met ∨ other = field := by
  unfold meet
  split
  · next skipped =>
      constructor
      · exact .inl
      · rintro (member | rfl)
        · exact member
        · simpa [notBlank] using skipped
  · rw [List.mem_cons, or_comm]

/-- One step of validation: a field adds its issue, and is met. -/
theorem fieldIssues_cons (nodeType : String) (met : List String) (field : String)
    (rest : List String) :
    fieldIssues nodeType met (field :: rest) =
      issuesAt nodeType met field ++ fieldIssues nodeType (meet met field) rest := by
  rw [fieldIssues, issuesAt, meet]
  by_cases isBlank : Text.blank field
  · simp [isBlank]
  · by_cases repeated : field ∈ met <;> simp [isBlank, repeated]

/-- As long as the fields met are those listed before, blank ones apart, every further field adds
the issue of its place. -/
theorem fieldIssues_eq_flatMap {nodeType : String} {met before : List String}
    (same : ∀ field, Text.blank field = false → (field ∈ met ↔ field ∈ before))
    (rest : List String) :
    fieldIssues nodeType met rest =
      (rest.zipIdx before.length).flatMap fun listed =>
        issuesAt nodeType ((before ++ rest).take listed.2) listed.1 := by
  induction rest generalizing met before with
  | nil => rfl
  | cons field rest inductionHypothesis =>
      have sameIssues : issuesAt nodeType met field = issuesAt nodeType before field := by
        unfold issuesAt
        split
        · rfl
        · next notBlank => simp only [same field (Bool.eq_false_iff.mpr notBlank)]
      have sameNext (other : String) (notBlank : Text.blank other = false) :
          other ∈ meet met field ↔ other ∈ before ++ [field] := by
        rw [mem_meet notBlank, same other notBlank, List.mem_append, List.mem_singleton]
      rw [fieldIssues_cons, inductionHypothesis sameNext, List.zipIdx_cons, List.flatMap_cons,
        List.take_left, sameIssues, List.length_append, List.length_singleton, List.append_assoc,
        List.singleton_append]

theorem typeIssues_eq_expectedIssues (entry : String × List String) :
    typeIssues entry = expectedIssues entry := by
  unfold typeIssues expectedIssues
  split
  · rfl
  · exact @fieldIssues_eq_flatMap entry.1 [] [] (fun _ _ => Iff.rfl) entry.2

/-! ## Numbers of issues -/

theorem duplicateField_not_mem_of_blank {nodeType field : String} (isBlank : Text.blank field = true)
    (met rest : List String) :
    .duplicateField nodeType field ∉ fieldIssues nodeType met rest := by
  induction rest generalizing met with
  | nil => exact List.not_mem_nil
  | cons other rest inductionHypothesis =>
      rw [fieldIssues_cons, List.mem_append, not_or]
      refine ⟨?_, inductionHypothesis _⟩
      unfold issuesAt
      split
      · simp
      · next notBlank =>
          have differs : field ≠ other := by
            rintro rfl
            exact notBlank isBlank
          split <;> simp [differs]

theorem count_duplicateField_issuesAt {nodeType field : String} {before : List String}
    (notBlank : Text.blank field = false) (other : String) :
    (issuesAt nodeType before other).count (.duplicateField nodeType field) =
      if other = field ∧ field ∈ before then 1 else 0 := by
  unfold issuesAt
  by_cases same : other = field
  · subst same
    by_cases repeated : other ∈ before <;> simp [notBlank, repeated]
  · split
    · simp [same]
    · split <;> simp [same]

/-- A field that is not blank has an issue at every place where it was met before, so at all places
but the first. -/
theorem count_duplicateField_fieldIssues {nodeType field : String}
    (notBlank : Text.blank field = false) (met rest : List String) :
    (fieldIssues nodeType met rest).count (.duplicateField nodeType field) =
      if field ∈ met then rest.count field else rest.count field - 1 := by
  induction rest generalizing met with
  | nil => simp [fieldIssues]
  | cons other rest inductionHypothesis =>
      rw [fieldIssues_cons, List.count_append, inductionHypothesis,
        count_duplicateField_issuesAt notBlank, List.count_cons]
      simp only [mem_meet notBlank]
      by_cases same : other = field
      · subst same
        by_cases repeated : other ∈ met <;> simp [repeated, Nat.add_comm]
      · simp [same, Ne.symm same]

/-- Every blank field has an issue of its own. -/
theorem count_emptyFieldName_fieldIssues (nodeType : String) (met rest : List String) :
    (fieldIssues nodeType met rest).count (.emptyFieldName nodeType) =
      rest.countP Text.blank := by
  induction rest generalizing met with
  | nil => rfl
  | cons field rest inductionHypothesis =>
      rw [fieldIssues_cons, List.count_append, inductionHypothesis, List.countP_cons,
        Nat.add_comm, issuesAt]
      by_cases isBlank : Text.blank field
      · simp [isBlank]
      · by_cases repeated : field ∈ met <;> simp [isBlank, repeated]

/-! ## Order of node types -/

theorem compareTexts_eq_lt_iff {left right : List Char} :
    Primitive.compareTexts left right = .lt ↔ left < right := by
  induction left generalizing right with
  | nil => cases right <;> simp [Primitive.compareTexts]
  | cons first rest inductionHypothesis =>
      cases right with
      | nil => simp [Primitive.compareTexts]
      | cons other others =>
          rw [Primitive.compareTexts, List.cons_lt_cons_iff]
          rcases Nat.lt_trichotomy first.toNat other.toNat with below | same | above
          · have isLess : first < other := below
            simp [below, isLess]
          · obtain rfl := Char.toNat_inj.mp same
            simp [inductionHypothesis]
          · have isGreater : other < first := above
            simp [above, Nat.lt_asymm above, isGreater.not_gt, isGreater.ne']

/-- The node types are in ascending order. -/
def Ascending (entries : List (String × List String)) : Prop :=
  entries.Pairwise fun first second => first.1 ≤ second.1

theorem mem_insertKeys {entry other : String × List String}
    {entries : List (String × List String)} :
    other ∈ insertKeys entry entries ↔ other = entry ∨ other ∈ entries := by
  induction entries with
  | nil => simp [insertKeys]
  | cons first rest inductionHypothesis =>
      rw [insertKeys]
      split
      · exact List.mem_cons
      · rw [List.mem_cons, inductionHypothesis, List.mem_cons]
        exact or_left_comm

theorem Ascending.insertKeys {entries : List (String × List String)}
    (ascending : Ascending entries) (entry : String × List String) :
    Ascending (insertKeys entry entries) := by
  induction entries with
  | nil => exact List.pairwise_singleton _ _
  | cons first rest inductionHypothesis =>
      obtain ⟨firstLeast, restAscending⟩ := List.pairwise_cons.mp ascending
      rw [Config.insertKeys]
      split
      · next isLess =>
          rw [compareTexts_eq_lt_iff, ← String.lt_iff_toList_lt] at isLess
          refine List.pairwise_cons.mpr ⟨fun other member => ?_, ascending⟩
          rcases List.mem_cons.mp member with rfl | inRest
          · exact isLess.le
          · exact isLess.le.trans (firstLeast other inRest)
      · next notLess =>
          rw [compareTexts_eq_lt_iff, ← String.lt_iff_toList_lt] at notLess
          refine List.pairwise_cons.mpr ⟨fun other member => ?_, inductionHypothesis restAscending⟩
          rcases mem_insertKeys.mp member with rfl | inRest
          · exact not_lt.mp notLess
          · exact firstLeast other inRest

theorem ascending_sortKeys (entries : List (String × List String)) :
    Ascending (sortKeys entries) := by
  induction entries with
  | nil => exact List.Pairwise.nil
  | cons entry rest inductionHypothesis => exact inductionHypothesis.insertKeys entry

theorem ascending_of_visitorKeys? {value? : Option Toml} {entries : List (String × List String)}
    (found : visitorKeys? value? = some entries) : Ascending entries := by
  unfold visitorKeys? at found
  split at found
  · cases found
    exact List.Pairwise.nil
  · obtain ⟨listed, _, sorted⟩ := Option.bind_eq_some_iff.mp found
    cases sorted
    exact ascending_sortKeys listed
  · cases found

theorem ascending_of_ofToml? {root : Toml.Entries} {config : Config}
    (found : ofToml? root = some config) : Ascending config.visitorKeys := by
  simp only [ofToml?, Option.bind_eq_bind, Option.bind_eq_some_iff] at found
  obtain ⟨_, _, _, _, _, _, entries, isRead, _, _, _, _, built⟩ := found
  cases built
  exact ascending_of_visitorKeys? isRead

/-! ## Validation -/

/-- The node type is not blank, and its fields are not blank and not repeated. -/
def IsProper (entry : String × List String) : Prop :=
  Text.blank entry.1 = false ∧ (∀ field ∈ entry.2, Text.blank field = false) ∧ entry.2.Nodup

theorem typeIssues_eq_nil_iff (entry : String × List String) :
    typeIssues entry = [] ↔ IsProper entry := by
  unfold typeIssues IsProper
  split
  · next isBlank => simp [isBlank]
  · next notBlank =>
      rw [fieldIssues_eq_nil_iff]
      simp [notBlank]

/-- Settings have no issue exactly if all their entries are proper. Their issues are those of the
entries, in order: a blank node type has one and hides its fields; in any other entry, every place
of a blank field has one, and every place of a field that is listed before it. So a field has one
issue less than places, unless it is blank. Settings that are read, by any reader of TOML, list their
entries by ascending node types, and are refused for exactly these issues. -/
theorem issues_exact (config : Config) :
    (config.issues = [] ↔ ∀ entry ∈ config.visitorKeys, IsProper entry) ∧
    config.issues = config.visitorKeys.flatMap expectedIssues ∧
    (∀ nodeType fields, Text.blank nodeType = false → ∀ field,
      (expectedIssues (nodeType, fields)).count (.duplicateField nodeType field) =
        (if Text.blank field then 0 else fields.count field - 1) ∧
      (expectedIssues (nodeType, fields)).count (.emptyFieldName nodeType) =
        fields.countP Text.blank) ∧
    (∀ (read : Toml.Reader) text, (read text).bind ofToml? = some config →
      Ascending config.visitorKeys ∧
      parse read text =
        if config.issues = [] then .ok config else .error (.invalid config.issues)) := by
  refine ⟨?_, ?_, ?_, ?_⟩
  · rw [issues, List.flatMap_eq_nil_iff]
    simp only [typeIssues_eq_nil_iff]
  · rw [issues, funext typeIssues_eq_expectedIssues]
  · intro nodeType fields notBlank field
    rw [← typeIssues_eq_expectedIssues, typeIssues, if_neg (Bool.eq_false_iff.mp notBlank)]
    refine ⟨?_, count_emptyFieldName_fieldIssues nodeType [] fields⟩
    split
    · next isBlank =>
        exact List.count_eq_zero.mpr (duplicateField_not_mem_of_blank isBlank [] fields)
    · next fieldNotBlank =>
        exact count_duplicateField_fieldIssues (Bool.eq_false_iff.mpr fieldNotBlank) [] fields
  · intro read text isRead
    obtain ⟨root, _, described⟩ := Option.bind_eq_some_iff.mp isRead
    refine ⟨ascending_of_ofToml? described, ?_⟩
    simp only [parse, isRead]
    split
    · next valid => rw [valid, if_pos rfl]
    · next invalid => rw [if_neg invalid]

/-- A text with settings that have issues of every kind. -/
def faultyText : String :=
  "[schema.visitor_keys]\nCall = ['callee', '', ' callee', 'callee', 'callee']\n' ' = ['', 'a', 'a']"

@[inherit_doc faultyText]
def faultyConfig : Config :=
  { Config.default with
    visitorKeys := [(" ", ["", "a", "a"]), ("Call", ["callee", "", " callee", "callee", "callee"])] }

/-- The settings are refused for four issues. Two of them are for the field that is listed three
times, and the field that differs from it in white space has none. -/
theorem faultyText_refused :
    Text.blank "Call" = false ∧
      (expectedIssues ("Call", ["callee", "", " callee", "callee", "callee"])).count
        (.duplicateField "Call" "callee") = 2 ∧
      (Toml.read? faultyText).bind ofToml? = some faultyConfig ∧
      Ascending faultyConfig.visitorKeys ∧
      parse Toml.read? faultyText = .error (.invalid [.emptyNodeType, .emptyFieldName "Call",
        .duplicateField "Call" "callee", .duplicateField "Call" "callee"]) := by
  have notBlank : Text.blank "Call" = false := by decide
  have isRead : (Toml.read? faultyText).bind ofToml? = some faultyConfig := by decide +kernel
  obtain ⟨_, _, counts, reading⟩ := issues_exact faultyConfig
  obtain ⟨ascending, refused⟩ := reading Toml.read? faultyText isRead
  exact ⟨notBlank, (counts "Call" _ notBlank "callee").1, isRead, ascending, refused⟩

end Config

end SyntaxQuery
