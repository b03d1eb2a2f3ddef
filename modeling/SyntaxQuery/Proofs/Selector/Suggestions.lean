import SyntaxQuery.Proofs.Text.EditDistance
import SyntaxQuery.Selector.Suggestion

/-!
Contract: the tag suggested for an unknown one is the nearest of all tags.

Each tag has a limit of its own, and a tag beyond its limit is passed over before the nearest is
chosen. A tag with a tighter limit could be passed over for one that is farther away, but only if
both are near the text that was written, and so near each other. No two tags are
(`tags_apart_of_tighter_limit`).

Does not own: when a tag is unknown.
-/

namespace SyntaxQuery

/-- The number of edits between a text in lower case and a tag. -/
def slips (written tag : String) : Nat :=
  Text.distance (Text.lowercase written).toList tag.toList

/-- The tags that are near enough to a text, each by its own limit. -/
def nearTags (written : String) : List String :=
  selectorTags.filter fun tag => slips written tag ≤ slipLimit tag

theorem mem_nearTags {written tag : String} :
    tag ∈ nearTags written ↔ tag ∈ selectorTags ∧ slips written tag ≤ slipLimit tag := by
  rw [nearTags, List.mem_filter, decide_eq_true_eq]

theorem suggestTag?_eq (written : String) :
    suggestTag? written =
      (nearest? ((nearTags written).map fun tag => (slips written tag, tag))).map Prod.snd := by
  simp only [suggestTag?, nearTags, slips, List.filter_map, Function.comp_def]
  rfl

/-! ## The first of the least -/

theorem nearest?_eq_none_iff {entries : List (Nat × String)} :
    nearest? entries = none ↔ entries = [] := by
  cases entries with
  | nil => exact ⟨fun _ => rfl, fun _ => rfl⟩
  | cons entry rest =>
      rw [nearest?]
      cases nearest? rest with
      | none => simp
      | some later => by_cases isLess : later.1 < entry.1 <;> simp [isLess]

/-- What is found is nowhere exceeded from below, and comes before all that equal it. -/
theorem least_of_nearest? {entries : List (Nat × String)} {best : Nat × String}
    (found : nearest? entries = some best) :
    (∀ entry ∈ entries, best.1 ≤ entry.1) ∧
      ∃ before behind, entries = before ++ best :: behind ∧ ∀ entry ∈ before, best.1 < entry.1 := by
  induction entries generalizing best with
  | nil => cases found
  | cons entry rest inductionHypothesis =>
      rw [nearest?] at found
      cases foundLater : nearest? rest with
      | none =>
          obtain rfl := nearest?_eq_none_iff.mp foundLater
          cases found
          exact ⟨by simp, [], [], rfl, by simp⟩
      | some later =>
          obtain ⟨isLeast, before, behind, split, isFirst⟩ := inductionHypothesis foundLater
          simp only [foundLater] at found
          by_cases isLess : later.1 < entry.1
          · rw [if_pos isLess] at found
            cases found
            refine ⟨List.forall_mem_cons.mpr ⟨Nat.le_of_lt isLess, isLeast⟩, entry :: before, behind,
              by rw [split]; rfl, List.forall_mem_cons.mpr ⟨isLess, isFirst⟩⟩
          · rw [if_neg isLess] at found
            cases found
            refine ⟨List.forall_mem_cons.mpr ⟨Nat.le_refl _, ?_⟩, [], rest, rfl, by simp⟩
            intro other member
            exact Nat.le_trans (Nat.not_lt.mp isLess) (isLeast other member)

/-! ## Suggestions -/

variable {written suggested : String}

/-- A suggested tag is near enough, as near as any other such tag, and nearer than those before it. -/
theorem of_suggestTag? (suggests : suggestTag? written = some suggested) :
    slips written suggested ≤ slipLimit suggested ∧
      (∀ tag ∈ nearTags written, slips written suggested ≤ slips written tag) ∧
      ∃ before behind, selectorTags = before ++ suggested :: behind ∧
        ∀ tag ∈ before, slips written tag ≤ slipLimit tag →
          slips written suggested < slips written tag := by
  simp only [suggestTag?_eq, Option.map_eq_some_iff, Prod.exists, exists_eq_right] at suggests
  obtain ⟨least, found⟩ := suggests
  obtain ⟨isLeast, before, behind, split, isFirst⟩ := least_of_nearest? found
  obtain ⟨nearBefore, others, tagSplit, rfl, isBehind⟩ := List.map_eq_append_iff.mp split
  obtain ⟨tag, nearBehind, rfl, isEntry, _⟩ := List.map_eq_cons_iff.mp isBehind
  obtain ⟨rfl, rfl⟩ := Prod.mk.inj isEntry
  simp only [List.forall_mem_map] at isLeast isFirst
  obtain ⟨first, second, split, isBefore, isOthers⟩ := List.filter_eq_append_iff.mp tagSplit
  obtain ⟨passedOver, last, rfl, arePassedOver, isNear, _⟩ :=
    List.filter_eq_cons_iff.mp isOthers
  refine ⟨of_decide_eq_true isNear, isLeast, first ++ passedOver, last, ?_, ?_⟩
  · rw [split, List.append_assoc]
  · intro other member otherIsNear
    rcases List.mem_append.mp member with inFirst | isPassedOver
    · apply isFirst other
      rw [← isBefore, List.mem_filter]
      exact ⟨inFirst, decide_eq_true otherIsNear⟩
    · exact absurd (decide_eq_true otherIsNear) (arePassedOver other isPassedOver)

/-- A tag is suggested if any is near enough. -/
theorem exists_suggestTag? {tag : String} (isNear : tag ∈ nearTags written) :
    ∃ suggested, suggestTag? written = some suggested := by
  rw [suggestTag?_eq]
  cases found : nearest? ((nearTags written).map fun tag => (slips written tag, tag)) with
  | none =>
      have isNil := List.map_eq_nil_iff.mp (nearest?_eq_none_iff.mp found)
      rw [isNil] at isNear
      cases isNear
  | some best => exact ⟨best.2, rfl⟩

theorem two_le_slipLimit (tag : String) : 2 ≤ slipLimit tag :=
  Nat.le_max_right _ _

/-- Tags whose limits differ by two or more are farther apart than twice the larger limit allows, so
no text is that near to one and still nearer to the other. -/
theorem tags_apart_of_tighter_limit : ∀ far ∈ selectorTags, ∀ tag ∈ selectorTags,
    slipLimit tag + 2 ≤ slipLimit far → 2 * slipLimit far ≤ Text.distance far.toList tag.toList := by
  decide +kernel

/-- No tag is nearer than one that is as near as any tag within its limit. -/
theorem slips_le_of_near (isTag : suggested ∈ selectorTags)
    (isNear : slips written suggested ≤ slipLimit suggested)
    (isLeast : ∀ tag ∈ nearTags written, slips written suggested ≤ slips written tag)
    {tag : String} (otherIsTag : tag ∈ selectorTags) :
    slips written suggested ≤ slips written tag := by
  by_cases otherIsNear : slips written tag ≤ slipLimit tag
  · exact isLeast tag (mem_nearTags.mpr ⟨otherIsTag, otherIsNear⟩)
  · -- A nearer tag that was passed over has a limit that is tighter by at least two.
    by_contra isNearer
    have apart := tags_apart_of_tighter_limit suggested isTag tag otherIsTag (by omega)
    have near : Text.distance suggested.toList tag.toList ≤
        slips written suggested + slips written tag := by
      have triangle := Text.distance_triangle suggested.toList (Text.lowercase written).toList
        tag.toList
      rwa [Text.distance_comm suggested.toList (Text.lowercase written).toList] at triangle
    omega

/-- The number of slips is the least number of edits from the text in lower case to a tag. No tag
takes fewer of them than the suggested one, also among the tags beyond their limit, and every
earlier tag within its limit takes more. If some tag takes at most two, one is suggested. -/
theorem suggestion_is_nearest (written : String) :
    (∀ tag, IsLeast {count | Text.Edits count (Text.lowercase written).toList tag.toList}
      (slips written tag)) ∧
    (∀ suggested, suggestTag? written = some suggested →
      (∀ tag ∈ selectorTags, slips written suggested ≤ slips written tag) ∧
      slips written suggested ≤ slipLimit suggested ∧
      ∃ before behind, selectorTags = before ++ suggested :: behind ∧
        ∀ tag ∈ before, slips written tag ≤ slipLimit tag →
          slips written suggested < slips written tag) ∧
    ((∃ tag ∈ selectorTags, slips written tag ≤ 2) →
      ∃ suggested, suggestTag? written = some suggested) := by
  refine ⟨fun tag => Text.isLeast_distance _ _, ?_, ?_⟩
  · intro suggested suggests
    obtain ⟨isNear, isLeast, before, behind, split, isFirst⟩ := of_suggestTag? suggests
    have isTag : suggested ∈ selectorTags := by simp [split]
    exact ⟨fun tag => slips_le_of_near isTag isNear isLeast, isNear, before, behind,
      split, isFirst⟩
  · intro near
    obtain ⟨tag, isTag, few⟩ := near
    exact exists_suggestTag?
      (mem_nearTags.mpr ⟨isTag, few.trans (two_le_slipLimit tag)⟩)

/-- The text is two edits from each of two tags, and the earlier of them is suggested. -/
theorem feild_may_mean_field :
    slips "Feild" "child" = 2 ∧ slips "Feild" "field" = 2 ∧
      suggestTag? "Feild" = some "field" ∧
      (∀ tag ∈ selectorTags, slips "Feild" "field" ≤ slips "Feild" tag) ∧
      "field" ∈ selectorTags ∧ ∃ suggested, suggestTag? "Feild" = some suggested := by
  have toChild : slips "Feild" "child" = 2 := by decide +kernel
  have toField : slips "Feild" "field" = 2 := by decide +kernel
  have suggests : suggestTag? "Feild" = some "field" := by decide +kernel
  have isTag : "field" ∈ selectorTags := by decide
  obtain ⟨_, nearest, isGiven⟩ := suggestion_is_nearest "Feild"
  exact ⟨toChild, toField, suggests, (nearest "field" suggests).1, isTag,
    isGiven ⟨"field", isTag, Nat.le_of_eq toField⟩⟩

end SyntaxQuery
