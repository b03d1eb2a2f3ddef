/-!
Contract: the edit distance between two texts.

Owns: the least number of insertions, deletions and substitutions of single characters, computed
one row at a time.
Does not own: what counts as near enough.
-/

namespace SyntaxQuery.Text

/-- The rest of a row of the distance table: `left` is the entry just written, `diagonal` the one
above it, and the list pairs each further column's character with the entry above that column. -/
def distanceRow (character : Char) : Nat → Nat → List (Char × Nat) → List Nat
  | _, _, [] => []
  | left, diagonal, (column, above) :: rest =>
      let entry := min (min (left + 1) (above + 1)) (diagonal + if character = column then 0 else 1)
      entry :: distanceRow character entry above rest

/-- Extends the row of distances between a processed start and every start of `target` by the
remaining characters, and returns the last entry. -/
def distanceFrom (target : List Char) : Nat → List Nat → List Char → Nat
  | first, row, [] => row.getLastD first
  | first, row, character :: rest =>
      distanceFrom target (first + 1)
        (distanceRow character (first + 1) first (target.zip row)) rest

/-- The edit distance between two texts, counted in characters. -/
def distance (source target : List Char) : Nat :=
  distanceFrom target 0 (List.range' 1 target.length) source

end SyntaxQuery.Text
