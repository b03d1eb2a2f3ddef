/-!
Contract: dotted paths as lists of segments.

Owns: splitting at a separator, which never yields an empty list.
Does not own: what a segment means.
-/

namespace SyntaxQuery.Text

/-- The stretches of a text between separators; `n` separators give `n + 1` stretches. -/
def splitAt (separator : Char) : List Char → List (List Char)
  | [] => [[]]
  | character :: rest =>
      if character = separator then [] :: splitAt separator rest
      else
        match splitAt separator rest with
        | [] => [[character]]
        | first :: others => (character :: first) :: others

def segments (path : String) : List String :=
  (splitAt '.' path.toList).map String.ofList

/-- There is always a first segment. -/
theorem splitAt_ne_nil (separator : Char) (text : List Char) : splitAt separator text ≠ [] := by
  cases text with
  | nil => simp [splitAt]
  | cons character rest =>
      unfold splitAt
      split
      · simp
      · split <;> simp

end SyntaxQuery.Text
