import Mathlib.Order.Bounds.Basic
import SyntaxQuery.Text.Distance

/-!
Contract: the distance between two texts is the least number of edits.

The distance is computed row by row over the starts of the target. Each row holds, for the start of
the source that has been passed, the values of a recursion on last characters, which is the
recursion `fewestEdits` on first characters of the texts reversed. One edit changes that recursion
by at most one, so no smaller number of edits leads from one text to the other
(`isLeast_distance`). With that the distance is a metric.

Does not own: limits for distances.
-/

namespace SyntaxQuery.Text

/-! ## Edits -/

/-- A character is inserted, removed or replaced somewhere in a text. -/
inductive Edit : List Char → List Char → Prop where
  | insert (before behind : List Char) (character : Char) :
      Edit (before ++ behind) (before ++ character :: behind)
  | remove (before behind : List Char) (character : Char) :
      Edit (before ++ character :: behind) (before ++ behind)
  | replace (before behind : List Char) (character other : Char) :
      Edit (before ++ character :: behind) (before ++ other :: behind)

/-- So many edits, one after the other, lead from a text to another. -/
inductive Edits : Nat → List Char → List Char → Prop where
  | none (text : List Char) : Edits 0 text text
  | step {count : Nat} {source next target : List Char} :
      Edit source next → Edits count next target → Edits (count + 1) source target

namespace Edit

variable {source target : List Char}

theorem symm (edit : Edit source target) : Edit target source := by
  cases edit with
  | insert before behind character => exact .remove before behind character
  | remove before behind character => exact .insert before behind character
  | replace before behind character other => exact .replace before behind other character

theorem cons (first : Char) (edit : Edit source target) : Edit (first :: source) (first :: target) := by
  cases edit with
  | insert before behind character => exact .insert (first :: before) behind character
  | remove before behind character => exact .remove (first :: before) behind character
  | replace before behind character other => exact .replace (first :: before) behind character other

theorem reverse (edit : Edit source target) : Edit source.reverse target.reverse := by
  cases edit with
  | insert before behind character =>
      simpa using Edit.insert behind.reverse before.reverse character
  | remove before behind character =>
      simpa using Edit.remove behind.reverse before.reverse character
  | replace before behind character other =>
      simpa using Edit.replace behind.reverse before.reverse character other

end Edit

namespace Edits

variable {source target : List Char} {count : Nat}

theorem trans {more : Nat} {next : List Char} (first : Edits count source next)
    (second : Edits more next target) : Edits (count + more) source target := by
  induction first with
  | none text => rwa [Nat.zero_add]
  | step edit _ inductionHypothesis =>
      rw [Nat.add_right_comm]
      exact .step edit (inductionHypothesis second)

theorem symm (edits : Edits count source target) : Edits count target source := by
  induction edits with
  | none text => exact .none text
  | step edit _ inductionHypothesis =>
      exact inductionHypothesis.trans (.step edit.symm (.none _))

theorem cons (first : Char) (edits : Edits count source target) :
    Edits count (first :: source) (first :: target) := by
  induction edits with
  | none text => exact .none _
  | step edit _ inductionHypothesis => exact .step (edit.cons first) inductionHypothesis

theorem reverse (edits : Edits count source target) :
    Edits count source.reverse target.reverse := by
  induction edits with
  | none text => exact .none _
  | step edit _ inductionHypothesis => exact .step edit.reverse inductionHypothesis

/-- A text is removed character by character. -/
theorem removeAll (text : List Char) : Edits text.length text [] := by
  induction text with
  | nil => exact .none []
  | cons first rest inductionHypothesis => exact .step (.remove [] rest first) inductionHypothesis

/-- Of two ways from one text to another there is a shorter one. -/
theorem shorter {more : Nat} (edits : Edits count source target)
    (others : Edits more source target) : Edits (min count more) source target := by
  rcases Nat.le_total count more with fewer | fewer
  · rwa [Nat.min_eq_left fewer]
  · rwa [Nat.min_eq_right fewer]

end Edits

/-! ## Recursion on first characters -/

/-- The least number of edits, by what becomes of the first characters: that of the source is
removed, that of the target is inserted, or one takes the place of the other. -/
def fewestEdits : List Char → List Char → Nat
  | [], target => target.length
  | source, [] => source.length
  | first :: source, other :: target =>
      min (min (fewestEdits (first :: source) target + 1) (fewestEdits source (other :: target) + 1))
        (fewestEdits source target + if first = other then 0 else 1)
termination_by source target => source.length + target.length

@[simp]
theorem fewestEdits_nil_left (target : List Char) : fewestEdits [] target = target.length := by
  rw [fewestEdits]

@[simp]
theorem fewestEdits_nil_right (source : List Char) : fewestEdits source [] = source.length := by
  cases source <;> simp [fewestEdits]

theorem fewestEdits_cons_cons (first other : Char) (source target : List Char) :
    fewestEdits (first :: source) (other :: target) =
      min (min (fewestEdits (first :: source) target + 1)
          (fewestEdits source (other :: target) + 1))
        (fewestEdits source target + if first = other then 0 else 1) := by
  rw [fewestEdits]

/-- So many edits are enough. -/
theorem edits_fewestEdits (source target : List Char) :
    Edits (fewestEdits source target) source target := by
  induction source, target using fewestEdits.induct with
  | case1 target =>
      rw [fewestEdits_nil_left]
      exact (Edits.removeAll target).symm
  | case2 source =>
      rw [fewestEdits_nil_right]
      exact Edits.removeAll source
  | case3 first source other target inserted removed kept =>
      have insertion : Edits (fewestEdits (first :: source) target + 1) (first :: source)
          (other :: target) :=
        .step (.insert [] (first :: source) other) (inserted.cons other)
      have removal : Edits (fewestEdits source (other :: target) + 1) (first :: source)
          (other :: target) :=
        .step (.remove [] source first) removed
      have replacement : Edits (fewestEdits source target + if first = other then 0 else 1)
          (first :: source) (other :: target) := by
        split
        · next same => exact same ▸ kept.cons first
        · exact .step (.replace [] source first other) (kept.cons other)
      rw [fewestEdits_cons_cons]
      exact (insertion.shorter removal).shorter replacement

/-! ## What one edit changes -/

theorem fewestEdits_cons_right_le (source : List Char) (other : Char) (target : List Char) :
    fewestEdits source (other :: target) ≤ fewestEdits source target + 1 := by
  cases source with
  | nil => simp
  | cons first source =>
      rw [fewestEdits_cons_cons]
      omega

theorem fewestEdits_cons_left_le (first : Char) (source target : List Char) :
    fewestEdits (first :: source) target ≤ fewestEdits source target + 1 := by
  cases target with
  | nil => simp
  | cons other target =>
      rw [fewestEdits_cons_cons]
      omega

theorem fewestEdits_le_cons_left (first : Char) (source target : List Char) :
    fewestEdits source target ≤ fewestEdits (first :: source) target + 1 := by
  induction target with
  | nil =>
      rw [fewestEdits_nil_right, fewestEdits_nil_right, List.length_cons]
      omega
  | cons other target inductionHypothesis =>
      have insertion := fewestEdits_cons_right_le source other target
      rw [fewestEdits_cons_cons]
      omega

theorem fewestEdits_replace_le (first next : Char) (source target : List Char) :
    fewestEdits (first :: source) target ≤ fewestEdits (next :: source) target + 1 := by
  induction target with
  | nil => simp
  | cons other target inductionHypothesis =>
      rw [fewestEdits_cons_cons, fewestEdits_cons_cons]
      split <;> omega

/-- Sources that are one edit apart stay so behind a further character. -/
theorem fewestEdits_behind_le {source next : List Char}
    (close : ∀ target, fewestEdits source target ≤ fewestEdits next target + 1) (first : Char)
    (target : List Char) :
    fewestEdits (first :: source) target ≤ fewestEdits (first :: next) target + 1 := by
  induction target with
  | nil =>
      have lengths := close []
      rw [fewestEdits_nil_right, fewestEdits_nil_right] at lengths ⊢
      rw [List.length_cons, List.length_cons]
      omega
  | cons other target inductionHypothesis =>
      have removed := close (other :: target)
      have kept := close target
      rw [fewestEdits_cons_cons, fewestEdits_cons_cons]
      omega

theorem fewestEdits_append_le {source next : List Char}
    (close : ∀ target, fewestEdits source target ≤ fewestEdits next target + 1)
    (before target : List Char) :
    fewestEdits (before ++ source) target ≤ fewestEdits (before ++ next) target + 1 := by
  induction before generalizing target with
  | nil => exact close target
  | cons first before inductionHypothesis =>
      exact fewestEdits_behind_le inductionHypothesis first target

/-- An edit of the source takes the target at most one edit nearer. -/
theorem Edit.fewestEdits_le {source next : List Char} (edit : Edit source next)
    (target : List Char) : fewestEdits source target ≤ fewestEdits next target + 1 := by
  cases edit with
  | insert before behind character =>
      exact fewestEdits_append_le (fewestEdits_le_cons_left character behind) before target
  | remove before behind character =>
      exact fewestEdits_append_le (fewestEdits_cons_left_le character behind) before target
  | replace before behind character other =>
      exact fewestEdits_append_le (fewestEdits_replace_le character other behind) before target

theorem fewestEdits_self (text : List Char) : fewestEdits text text = 0 := by
  induction text with
  | nil => simp
  | cons first rest inductionHypothesis =>
      rw [fewestEdits_cons_cons, inductionHypothesis, if_pos rfl]
      exact Nat.min_zero _

/-- Fewer edits are not enough. -/
theorem Edits.fewestEdits_le {count : Nat} {source target : List Char}
    (edits : Edits count source target) : fewestEdits source target ≤ count := by
  induction edits with
  | none text => rw [fewestEdits_self]
  | @step count source next target edit _ inductionHypothesis =>
      exact (edit.fewestEdits_le target).trans (Nat.succ_le_succ inductionHypothesis)

/-! ## Row by row -/

/-- The entries of a row for a passed start of the source and the further starts of the target. Both
passed starts are given last character first. -/
def rowOf (before met : List Char) : List Char → List Nat
  | [] => []
  | column :: rest => fewestEdits before (column :: met) :: rowOf before (column :: met) rest

theorem distanceRow_rowOf (character : Char) (before met rest : List Char) :
    distanceRow character (fewestEdits (character :: before) met) (fewestEdits before met)
        (rest.zip (rowOf before met rest)) =
      rowOf (character :: before) met rest := by
  induction rest generalizing met with
  | nil => rfl
  | cons column rest inductionHypothesis =>
      rw [rowOf, List.zip_cons_cons, distanceRow, ← fewestEdits_cons_cons, inductionHypothesis,
        rowOf]

theorem getLastD_rowOf (before met rest : List Char) :
    (rowOf before met rest).getLastD (fewestEdits before met) =
      fewestEdits before (rest.reverse ++ met) := by
  induction rest generalizing met with
  | nil => rfl
  | cons column rest inductionHypothesis =>
      rw [rowOf, List.getLastD_cons, inductionHypothesis, List.reverse_cons, List.append_assoc,
        List.singleton_append]

/-- The last row ends with the least number of edits between the texts read backwards. -/
theorem distanceFrom_rowOf (target before rest : List Char) :
    distanceFrom target before.length (rowOf before [] target) rest =
      fewestEdits (rest.reverse ++ before) target.reverse := by
  induction rest generalizing before with
  | nil =>
      have last := getLastD_rowOf before [] target
      rw [fewestEdits_nil_right, List.append_nil] at last
      exact last
  | cons character rest inductionHypothesis =>
      have next := distanceRow_rowOf character before [] target
      rw [fewestEdits_nil_right, fewestEdits_nil_right, List.length_cons] at next
      rw [distanceFrom, next, ← List.length_cons, inductionHypothesis, List.reverse_cons,
        List.append_assoc, List.singleton_append]

theorem rowOf_nil (met rest : List Char) :
    rowOf [] met rest = List.range' (met.length + 1) rest.length := by
  induction rest generalizing met with
  | nil => rfl
  | cons column rest inductionHypothesis =>
      rw [rowOf, inductionHypothesis, fewestEdits_nil_left, List.length_cons, List.length_cons,
        List.range'_succ]

theorem distance_eq_fewestEdits (source target : List Char) :
    distance source target = fewestEdits source.reverse target.reverse := by
  have rows := distanceFrom_rowOf target [] source
  rwa [rowOf_nil, List.append_nil] at rows

/-! ## The distance -/

/-- The distance is the least number of edits that lead from one text to the other. -/
theorem isLeast_distance (source target : List Char) :
    IsLeast {count | Edits count source target} (distance source target) := by
  rw [distance_eq_fewestEdits]
  constructor
  · have edits := (edits_fewestEdits source.reverse target.reverse).reverse
    rwa [List.reverse_reverse, List.reverse_reverse] at edits
  · intro count edits
    exact edits.reverse.fewestEdits_le

theorem distance_comm (source target : List Char) :
    distance source target = distance target source :=
  Nat.le_antisymm ((isLeast_distance source target).2 (isLeast_distance target source).1.symm)
    ((isLeast_distance target source).2 (isLeast_distance source target).1.symm)

theorem distance_triangle (source next target : List Char) :
    distance source target ≤ distance source next + distance next target :=
  (isLeast_distance source target).2
    ((isLeast_distance source next).1.trans (isLeast_distance next target).1)

end SyntaxQuery.Text
