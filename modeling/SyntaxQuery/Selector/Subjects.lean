import SyntaxQuery.Selector.Basic

/-!
Contract: the fragments of a selector that a reported node must match.

Owns: the order of the fragments and the scope that a mark stands for.
Does not own: testing nodes.
-/

namespace SyntaxQuery.Selector

/-- The fragment for a part's own mark. -/
def own (scope : Selector) (subject : Bool) : List Selector :=
  if subject then [scope] else []

mutual

/-- The fragments for the marks in a part of a selector. A mark stands for the innermost scope around
it; the left side of a combinator, which is matched at another node, is a scope of its own. -/
def fragments (scope : Selector) : Selector → List Selector
  | .single _ subject => own scope subject
  | .group _ members subject => own scope subject ++ memberFragments scope members
  | .relation _ left right subject =>
      own scope subject ++ fragments left left ++ fragments scope right
  | .place _ _ none subject => own scope subject
  | .place _ _ (some inner) subject => own scope subject ++ fragments scope inner

/-- The fragments for the marks in several parts, in order. -/
def memberFragments (scope : Selector) : List Selector → List Selector
  | [] => []
  | first :: rest => fragments scope first ++ memberFragments scope rest

end

/-- The fragments of a selector, a part before the parts inside it and the left side before the
right. Without marks there are none, and the matched node itself is reported. -/
def subjects (selector : Selector) : List Selector :=
  fragments selector selector

end SyntaxQuery.Selector
