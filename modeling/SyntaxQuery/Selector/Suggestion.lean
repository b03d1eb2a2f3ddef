import SyntaxQuery.Selector.Basic
import SyntaxQuery.Text.Case
import SyntaxQuery.Text.Distance

/-!
Contract: the tag that an unknown tag may have been meant to be.

Owns: how near a tag must be, and which of several near tags is suggested.
Does not own: the distance.
-/

namespace SyntaxQuery

def selectorTags : List String :=
  Shape.all.map Shape.tag

/-- How far a text may be from a tag to pass for a slip of it. -/
def slipLimit (tag : String) : Nat :=
  max (tag.length / 3) 2

/-- The first of the entries with the least first component. -/
def nearest? : List (Nat × String) → Option (Nat × String)
  | [] => none
  | entry :: rest =>
      match nearest? rest with
      | none => some entry
      | some best => if best.1 < entry.1 then some best else some entry

/-- The tag nearest to a text in lower case, among those near enough; the earliest of equals. -/
def suggestTag? (written : String) : Option String :=
  let lowered := (Text.lowercase written).toList
  let measured := selectorTags.map fun tag => (Text.distance lowered tag.toList, tag)
  (nearest? (measured.filter fun (distance, tag) => distance ≤ slipLimit tag)).map Prod.snd

end SyntaxQuery
