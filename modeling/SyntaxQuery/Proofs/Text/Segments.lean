import SyntaxQuery.Text.Segments

/-!
Contract: paths that are joined from their segments or from two paths.

Splitting is the standard splitting of lists at an element (`splitAt_eq_splitOn`), so segments
without points are what a path joined from them is split into, and the segments of two paths joined
by a point are those of the first and then those of the second.

Does not own: what a segment means.
-/

namespace SyntaxQuery.Text

theorem splitAt_eq_splitOn (separator : Char) (text : List Char) :
    splitAt separator text = text.splitOn separator := by
  induction text with
  | nil => rfl
  | cons character rest inductionHypothesis =>
      rw [splitAt, List.splitOn_cons_eq_if_modifyHead, ← inductionHypothesis]
      by_cases isSeparator : character = separator
      · rw [if_pos isSeparator, if_pos (beq_iff_eq.mpr isSeparator)]
      · rw [if_neg isSeparator, if_neg (mt beq_iff_eq.mp isSeparator)]
        obtain ⟨first, others, isCons⟩ :=
          List.exists_cons_of_ne_nil (splitAt_ne_nil separator rest)
        rw [isCons]
        rfl

theorem segments_intercalate {parts : List String} (nonempty : parts ≠ [])
    (pointFree : ∀ part ∈ parts, '.' ∉ part.toList) :
    segments (".".intercalate parts) = parts := by
  have joined : (".".intercalate parts).toList = ['.'].intercalate (parts.map String.toList) :=
    String.toList_intercalate
  have split : (['.'].intercalate (parts.map String.toList)).splitOn '.' =
      parts.map String.toList :=
    List.splitOn_intercalate '.' (List.forall_mem_map.mpr pointFree)
      (mt List.map_eq_nil_iff.mp nonempty)
  rw [segments, joined, splitAt_eq_splitOn, split, List.map_map]
  exact List.map_id'' (fun _ => String.ofList_toList) parts

theorem segments_ne_nil (path : String) : segments path ≠ [] :=
  mt List.map_eq_nil_iff.mp (splitAt_ne_nil '.' path.toList)

/-- Joining two paths puts their segments in a row, empty ones included. -/
theorem segments_append (first second : String) :
    segments (first ++ "." ++ second) = segments first ++ segments second := by
  have joined : (first ++ "." ++ second).toList = first.toList ++ '.' :: second.toList := by
    simp
  rw [segments, joined, splitAt_eq_splitOn, List.splitOn_append_cons_self, List.map_append,
    ← splitAt_eq_splitOn, ← splitAt_eq_splitOn]
  rfl

/-- A text without points is its own and only segment. -/
theorem segments_of_pointFree {text : String} (pointFree : '.' ∉ text.toList) :
    segments text = [text] :=
  segments_intercalate (List.cons_ne_nil text []) (List.forall_mem_singleton.mpr pointFree)

end SyntaxQuery.Text
