import Mathlib.Data.List.TakeWhile
import SyntaxQuery.Text.Blank

/-!
Contract: trimming by a class of characters.

A text is what trimming leaves of it, with characters of the class before and behind. So trimming by
a wider class goes on where trimming by a narrower one stops, and both leave the same text if that is
free of the wider class and the characters removed are of the narrower one (`holds_trimBy_iff`).

Does not own: which characters are blank.
-/

namespace SyntaxQuery.Text

/-- Removes the characters of a class at both ends of a text. -/
def trimBy (isIn : Char → Bool) (text : List Char) : List Char :=
  ((text.dropWhile isIn).reverse.dropWhile isIn).reverse

theorem trim_eq_trimBy (text : List Char) : trim text = trimBy isBlank text := rfl

variable {isIn : Char → Bool} {text : List Char}

theorem dropWhile_of_free (free : ∀ character ∈ text, isIn character = false) :
    text.dropWhile isIn = text := by
  cases text with
  | nil => rfl
  | cons first rest =>
      rw [List.dropWhile_cons_of_neg]
      rw [free first List.mem_cons_self]
      exact Bool.false_ne_true

theorem trimBy_of_free (free : ∀ character ∈ text, isIn character = false) :
    trimBy isIn text = text := by
  have reversed : ∀ character ∈ text.reverse, isIn character = false := fun character member =>
    free character (List.mem_reverse.mp member)
  rw [trimBy, dropWhile_of_free free, dropWhile_of_free reversed, List.reverse_reverse]

/-- Trimming removes nothing but characters of the class, before and behind what it leaves. -/
theorem exists_trimmed (isIn : Char → Bool) (text : List Char) :
    ∃ before behind, text = before ++ trimBy isIn text ++ behind ∧
      (∀ character ∈ before, isIn character = true) ∧
        ∀ character ∈ behind, isIn character = true := by
  have behindParts := List.takeWhile_append_dropWhile
    (p := isIn) (l := (text.dropWhile isIn).reverse)
  refine ⟨text.takeWhile isIn, ((text.dropWhile isIn).reverse.takeWhile isIn).reverse, ?_,
    fun character => List.mem_takeWhile_imp, fun character member =>
      List.mem_takeWhile_imp (List.mem_reverse.mp member)⟩
  rw [trimBy, List.append_assoc, ← List.reverse_append, behindParts, List.reverse_reverse,
    List.takeWhile_append_dropWhile]

/-- Characters of the class before and behind a text are removed with those at its ends. -/
theorem trimBy_append {before middle behind : List Char}
    (beforeIn : ∀ character ∈ before, isIn character = true)
    (behindIn : ∀ character ∈ behind, isIn character = true) :
    trimBy isIn (before ++ middle ++ behind) = trimBy isIn middle := by
  have reversedIn : ∀ character ∈ behind.reverse, isIn character = true := fun character member =>
    behindIn character (List.mem_reverse.mp member)
  rw [trimBy, List.append_assoc, List.dropWhile_append_of_pos beforeIn, List.dropWhile_append]
  split
  · next nothingLeft =>
      rw [List.dropWhile_eq_nil_iff.mpr behindIn, trimBy, List.isEmpty_iff.mp nothingLeft]
  · rw [List.reverse_append, List.dropWhile_append_of_pos reversedIn, trimBy]

variable {wider : Char → Bool}

theorem trimBy_trimBy (narrower : ∀ character, isIn character = true → wider character = true)
    (text : List Char) : trimBy wider (trimBy isIn text) = trimBy wider text := by
  obtain ⟨before, behind, isText, beforeIn, behindIn⟩ := exists_trimmed isIn text
  calc trimBy wider (trimBy isIn text) = trimBy wider (before ++ trimBy isIn text ++ behind) :=
        (trimBy_append (fun character member => narrower _ (beforeIn character member))
          fun character member => narrower _ (behindIn character member)).symm
    _ = trimBy wider text := by rw [← isText]

/-- If a property keeps the characters of the wider class out, then trimming by the narrower class
leaves a text with the property where trimming by the wider class does and removes nothing else. -/
theorem holds_trimBy_iff {Holds : List Char → Prop}
    (narrower : ∀ character, isIn character = true → wider character = true)
    (free : ∀ text, Holds text → ∀ character ∈ text, wider character = false) (text : List Char) :
    Holds (trimBy isIn text) ↔ Holds (trimBy wider text) ∧
      ∀ character ∈ text, wider character = true → isIn character = true := by
  constructor
  · intro holds
    have leftFree := free _ holds
    obtain ⟨before, behind, isText, beforeIn, behindIn⟩ := exists_trimmed isIn text
    refine ⟨?_, fun character member isWide => ?_⟩
    · rwa [← trimBy_trimBy narrower, trimBy_of_free leftFree]
    · rw [isText, List.mem_append, List.mem_append] at member
      rcases member with (isBefore | isLeft) | isBehind
      · exact beforeIn character isBefore
      · rw [leftFree character isLeft] at isWide
        cases isWide
      · exact behindIn character isBehind
  · rintro ⟨holds, onlyNarrow⟩
    -- What the wider class removes is all narrow, so the narrower class removes it as well.
    have leftFree := free _ holds
    obtain ⟨before, behind, isText, beforeIn, behindIn⟩ := exists_trimmed wider text
    have notIn : ∀ character ∈ trimBy wider text, isIn character = false := fun character member =>
      Bool.eq_false_iff.mpr fun isNarrow =>
        Bool.eq_false_iff.mp (leftFree character member) (narrower character isNarrow)
    have narrowBefore : ∀ character ∈ before, isIn character = true := fun character member =>
      onlyNarrow character (by rw [isText]; simp [member]) (beforeIn character member)
    have narrowBehind : ∀ character ∈ behind, isIn character = true := fun character member =>
      onlyNarrow character (by rw [isText]; simp [member]) (behindIn character member)
    have sameTrimmed : trimBy isIn text = trimBy wider text := by
      calc trimBy isIn text = trimBy isIn (before ++ trimBy wider text ++ behind) := by
            rw [← isText]
        _ = trimBy wider text := by
            rw [trimBy_append narrowBefore narrowBehind, trimBy_of_free notIn]
    rwa [sameTrimmed]

end SyntaxQuery.Text
