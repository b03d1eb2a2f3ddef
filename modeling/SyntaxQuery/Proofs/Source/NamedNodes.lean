import Mathlib.Data.List.Lex
import SyntaxQuery.Proofs.Query.FieldTests

/-!
Contract: the nodes of a source tree that a traversal enters.

The schema names one field, which lists the named children unless the grammar has a field of that
name. So a traversal goes from named node to named node, and every position that it enters is below
positions that it entered before. The order of the entered positions is the lexicographic one of
their indices, in which a position comes before all those below it.

Does not own: field tests at these nodes.
-/

namespace SyntaxQuery

/-! ## Walks that are never refused -/

theorem joinWalks_accepted {α : Type} {walks : List (Outcome (List α))}
    (accepted : ∀ walk ∈ walks, walk.refusal? = none) : (joinWalks walks).refusal? = none := by
  induction walks with
  | nil => rfl
  | cons first rest inductionHypothesis =>
      obtain ⟨firstAccepted, restAccepted⟩ := List.forall_mem_cons.mp accepted
      rw [joinWalks_cons, Outcome.andThen_of_accepted firstAccepted]
      exact inductionHypothesis restAccepted

/-- A schema that accepts every node leads to no refusal. -/
theorem visits_accepted {ν : Type} [SyntaxNode ν] {schema : Schema ν}
    (accepts : ∀ node, ∃ fields, schema node = .ok fields) (start : Visit ν) :
    (visits schema start).refusal? = none := by
  obtain ⟨node, above⟩ := start
  induction node using tree_induction schema generalizing above with
  | refused node refusal found =>
      obtain ⟨fields, accepted⟩ := accepts node
      rw [children_eq_error_iff, accepted] at found
      cases found
  | accepted node kids found inductionHypothesis =>
      rw [visits_of_children found, Outcome.accepted_andThen]
      apply joinWalks_accepted
      intro walk isBelow
      obtain ⟨child, isChild, rfl⟩ := List.mem_map.mp isBelow
      exact inductionHypothesis child isChild (node :: above)

namespace SourceNode

/-! ## Named children by their indices -/

/-- No child in the tree stands under a grammar field with the name of the common field that lists
the named children. -/
def ListsChildren (tree : SyntaxTree) : Prop :=
  ∀ position node, tree.at? position = some node →
    ∀ child ∈ node.children, child.info.field? ≠ some childrenField

/-- The handle to the direct parent of the node at a position, which the root does not have. -/
def parentAt? (source : String) (tree : SyntaxTree) (position : List Nat) : Option SourceNode :=
  if position = [] then none
  else (tree.at? position.dropLast).map fun parent => ⟨position.dropLast, parent, source⟩

/-- Every node on the way from the root to a position, the root apart, is a named one. -/
def NamedOnWay (tree : SyntaxTree) (position : List Nat) : Prop :=
  ∀ onWay, onWay <+: position → onWay ≠ [] →
    ∃ node, tree.at? onWay = some node ∧ node.info.named = true

variable {source : String} {tree : SyntaxTree}

theorem visits_not_refused (start : Visit SourceNode) : (visits schema start).refusal? = none :=
  visits_accepted (fun _ => ⟨_, rfl⟩) start

/-- The children of a node are its named children. -/
theorem children_eq_filter_named (lists : ListsChildren tree) {node : SourceNode}
    (stands : StandsIn source tree node) :
    children schema node = .ok (node.all.filter fun child => child.tree.info.named) := by
  have noField : node.inField childrenField = [] := by
    rw [inField_eq_nil_iff]
    intro child isChild
    exact lists node.position node.tree stands.1 child.tree (tree_mem_of_mem_handles isChild)
  have held : (SyntaxNode.field node childrenField).nodes =
      node.all.filter fun child => child.tree.info.named := by
    show (node.field childrenField).nodes = _
    rw [field, noField]
    exact nodes_list_map _
  simp [children, schema, held]

/-! ## The entered nodes -/

theorem namedOnWay_concat_iff {position : List Nat} {index : Nat} :
    NamedOnWay tree (position ++ [index]) ↔
      NamedOnWay tree position ∧
        ∃ node, tree.at? (position ++ [index]) = some node ∧ node.info.named = true := by
  constructor
  · intro named
    constructor
    · intro onWay isPrefix
      exact named onWay (isPrefix.trans (List.prefix_append position [index]))
    · exact named (position ++ [index]) List.prefix_rfl (by simp)
  · rintro ⟨named, last⟩ onWay isPrefix nonempty
    rcases List.prefix_concat_iff.mp isPrefix with rfl | shorter
    · exact last
    · exact named onWay shorter nonempty

/-- A visit is of a node on a way of named nodes, and its nearest ancestor is the direct parent. -/
def IsNamedVisit (source : String) (tree : SyntaxTree) (visit : Visit SourceNode) : Prop :=
  StandsIn source tree visit.node ∧ NamedOnWay tree visit.node.position ∧
    visit.ancestry.head? = parentAt? source tree visit.node.position

theorem namedOnWay_nil (tree : SyntaxTree) : NamedOnWay tree [] := by
  intro onWay isPrefix nonempty
  exact absurd (List.prefix_nil.mp isPrefix) nonempty

theorem StandsIn.child {node child : SourceNode} {index : Nat} (stands : StandsIn source tree node)
    (position : child.position = node.position ++ [index])
    (found : node.tree.children[index]? = some child.tree) (sameSource : child.source = node.source) :
    StandsIn source tree child := by
  refine ⟨?_, sameSource.trans stands.2⟩
  rw [position, SyntaxTree.at?_append, stands.1, Option.bind_some, SyntaxTree.at?, found]
  rfl

/-- A step of the traversal leads to a named child. -/
theorem IsNamedVisit.step (lists : ListsChildren tree) {above below : Visit SourceNode}
    (named : IsNamedVisit source tree above) (steps : above.Steps schema below) :
    IsNamedVisit source tree below := by
  obtain ⟨stands, onWay, _⟩ := named
  obtain ⟨kids, found, child, isKid, rfl⟩ := steps
  rw [children_eq_filter_named lists stands] at found
  cases found
  obtain ⟨isChild, isNamed⟩ := List.mem_filter.mp isKid
  obtain ⟨index, position, childFound, sameSource⟩ := exists_index_of_mem_all isChild
  have childStands := stands.child position childFound sameSource
  refine ⟨childStands, ?_, ?_⟩
  · show NamedOnWay tree child.position
    rw [position, namedOnWay_concat_iff, ← position]
    exact ⟨onWay, child.tree, childStands.1, isNamed⟩
  · show some above.node = parentAt? source tree child.position
    rw [parentAt?, position, if_neg (by simp), List.dropLast_concat, stands.1, ← stands.2]
    rfl

/-- Every node on a way of named nodes is visited. -/
theorem exists_visit_of_namedOnWay (lists : ListsChildren tree) {node : SourceNode}
    (stands : StandsIn source tree node) (onWay : NamedOnWay tree node.position) :
    ∃ ancestry, ⟨node, ancestry⟩ ∈ (visits schema (.root (.root source tree))).state := by
  obtain ⟨position, below, nodeSource⟩ := node
  obtain ⟨found, rfl⟩ := stands
  dsimp only at found onWay
  induction position using List.reverseRecOn generalizing below with
  | nil =>
      cases found
      exact ⟨[], mem_visits_self schema _⟩
  | append_singleton position index inductionHypothesis =>
      obtain ⟨parentOnWay, named⟩ := namedOnWay_concat_iff.mp onWay
      rw [SyntaxTree.at?_append] at found
      obtain ⟨parent, parentFound, atIndex⟩ := Option.bind_eq_some_iff.mp found
      obtain ⟨child, childFound, isBelow⟩ := Option.bind_eq_some_iff.mp atIndex
      cases isBelow
      obtain ⟨ancestry, visited⟩ := inductionHypothesis parent parentOnWay parentFound
      have isChild := mem_handles_of_getElem? ⟨position, parent, nodeSource⟩ 0 childFound
      rw [Nat.zero_add] at isChild
      have isKid : (⟨position ++ [index], below, nodeSource⟩ : SourceNode) ∈
          (SourceNode.all ⟨position, parent, nodeSource⟩).filter fun child =>
            child.tree.info.named := by
        obtain ⟨other, otherFound, isNamed⟩ := named
        rw [SyntaxTree.at?_append, found] at otherFound
        cases otherFound
        exact List.mem_filter.mpr ⟨isChild, isNamed⟩
      have steps : Visit.Steps schema ⟨⟨position, parent, nodeSource⟩, ancestry⟩
          (Visit.child ⟨⟨position, parent, nodeSource⟩, ancestry⟩
            ⟨position ++ [index], below, nodeSource⟩) :=
        ⟨_, children_eq_filter_named lists ⟨parentFound, rfl⟩, _, isKid, rfl⟩
      exact ⟨_, mem_visits_of_steps (visits_not_refused _) visited steps⟩

/-! ## The order of entering -/

theorem lex_of_prefix {position below : List Nat} (isPrefix : position <+: below)
    (differ : position ≠ below) : List.Lex (· < ·) position below := by
  obtain ⟨rest, rfl⟩ := isPrefix
  cases rest with
  | nil => simp at differ
  | cons index rest =>
      have before : List.Lex (· < ·) (position ++ []) (position ++ index :: rest) :=
        List.Lex.append_left _ .nil position
      rwa [List.append_nil] at before

/-- Positions below siblings come in the order of the siblings. -/
theorem lex_of_siblings {position left right : List Nat} {index later : Nat} (earlier : index < later)
    (leftBelow : position ++ [index] <+: left) (rightBelow : position ++ [later] <+: right) :
    List.Lex (· < ·) left right := by
  obtain ⟨leftRest, rfl⟩ := leftBelow
  obtain ⟨rightRest, rfl⟩ := rightBelow
  rw [List.append_assoc, List.append_assoc]
  exact List.Lex.append_left _ (.rel earlier) position

theorem prefix_of_leads {start visit : Visit SourceNode} (leads : Visit.Leads schema start visit) :
    start.node.position <+: visit.node.position := by
  induction leads with
  | refl => exact List.prefix_rfl
  | tail _ steps inductionHypothesis =>
      obtain ⟨kids, found, child, isKid, rfl⟩ := steps
      obtain ⟨fields, _, rfl⟩ := children_eq_ok_iff.mp found
      obtain ⟨name, _, held⟩ := List.mem_flatMap.mp isKid
      obtain ⟨index, position, _⟩ := exists_index_of_mem_all (mem_all_of_mem_field _ _ _ held)
      refine inductionHypothesis.trans ?_
      show _ <+: child.position
      rw [position]
      exact List.prefix_append _ _

theorem prefix_of_mem_visits_child {start visit : Visit SourceNode} {child : SourceNode}
    {index : Nat} (position : child.position = start.node.position ++ [index])
    (visited : visit ∈ (visits schema (start.child child)).state) :
    start.node.position ++ [index] <+: visit.node.position := by
  rw [← position]
  exact prefix_of_leads (leads_of_mem_visits visited)

/-- A traversal enters the positions in their lexicographic order. The induction is on the tree: the
positions below a child begin with the child's, and the children come by growing index. -/
theorem pairwise_positions (lists : ListsChildren tree) (start : Visit SourceNode)
    (stands : StandsIn source tree start.node) :
    ((visits schema start).state.map fun visit => visit.node.position).Pairwise
      (List.Lex (· < ·)) := by
  obtain ⟨node, above⟩ := start
  induction node using tree_induction schema generalizing above with
  | refused node refusal found =>
      rw [visits_of_refused found]
      exact List.pairwise_singleton _ _
  | accepted node kids found inductionHypothesis =>
      have below := visits_not_refused ⟨node, above⟩
      rw [visits_of_children found, Outcome.accepted_andThen] at below ⊢
      rw [children_eq_filter_named lists stands] at found
      cases found
      rw [(of_joinWalks_accepted below).2, List.flatMap_map, List.cons_append, List.nil_append,
        List.map_cons, List.map_flatMap, List.pairwise_cons, List.pairwise_flatMap]
      refine ⟨?_, ?_, ?_⟩
      · -- The node itself comes before all that is below its children.
        intro position isBelow
        obtain ⟨child, isKid, inChild⟩ := List.mem_flatMap.mp isBelow
        obtain ⟨visit, visited, rfl⟩ := List.mem_map.mp inChild
        obtain ⟨index, childPosition, _⟩ := exists_index_of_mem_all (List.mem_filter.mp isKid).1
        have onWay := prefix_of_mem_visits_child childPosition visited
        apply lex_of_prefix ((List.prefix_append node.position [index]).trans onWay)
        intro same
        rw [← same] at onWay
        exact absurd onWay.length_le (by simp)
      · intro child isKid
        obtain ⟨index, position, childFound, sameSource⟩ :=
          exists_index_of_mem_all (List.mem_filter.mp isKid).1
        exact inductionHypothesis child isKid (node :: above)
          (stands.child position childFound sameSource)
      · refine ((pairwise_handles node 0 node.tree.children).filter _).imp ?_
        rintro left right ⟨index, later, earlier, leftPosition, rightPosition⟩
        intro leftBelow inLeft rightBelow inRight
        obtain ⟨leftVisit, leftVisited, rfl⟩ := List.mem_map.mp inLeft
        obtain ⟨rightVisit, rightVisited, rfl⟩ := List.mem_map.mp inRight
        exact lex_of_siblings earlier (prefix_of_mem_visits_child leftPosition leftVisited)
          (prefix_of_mem_visits_child rightPosition rightVisited)

/-! ## Traversals of source trees -/

theorem mem_events_iff_namedOnWay (lists : ListsChildren tree) (node : SourceNode)
    (parent? : Option SourceNode) :
    .enter node parent? ∈ (traversalEvents schema (.root source tree)).state ↔
      StandsIn source tree node ∧ NamedOnWay tree node.position ∧
        parent? = parentAt? source tree node.position := by
  have namedVisit {visit : Visit SourceNode}
      (visited : visit ∈ (visits schema (.root (.root source tree))).state) :
      IsNamedVisit source tree visit := by
    have leads := leads_of_mem_visits visited
    clear visited
    induction leads with
    | refl => exact ⟨⟨rfl, rfl⟩, namedOnWay_nil tree, rfl⟩
    | tail _ steps inductionHypothesis => exact inductionHypothesis.step lists steps
  rw [mem_events_iff]
  constructor
  · rintro ⟨ancestry, rfl, visited⟩
    exact namedVisit visited
  · rintro ⟨stands, onWay, rfl⟩
    obtain ⟨ancestry, visited⟩ := exists_visit_of_namedOnWay lists stands onWay
    exact ⟨ancestry, (namedVisit visited).2.2, visited⟩

/-- A traversal of a source tree is not refused. It enters the root and the named nodes to which
named nodes lead, each from its direct parent, and no anonymous token. It enters them in the order
of their positions, a node before those below it, and none twice. -/
theorem traversal_enters_named_nodes (source : String) {tree : SyntaxTree}
    (lists : ListsChildren tree) :
    (traversalEvents schema (.root source tree)).refusal? = none ∧
      (∀ node parent?, .enter node parent? ∈ (traversalEvents schema (.root source tree)).state ↔
        StandsIn source tree node ∧ NamedOnWay tree node.position ∧
          parent? = parentAt? source tree node.position) ∧
      (∀ node, Enters schema (.root source tree) node →
        node.position = [] ∨ node.tree.info.named = true) ∧
      ((enteredNodes schema (.root source tree)).map position).Pairwise (List.Lex (· < ·)) ∧
      ((enteredNodes schema (.root source tree)).map position).Nodup := by
  have ordered : ((enteredNodes schema (.root source tree)).map position).Pairwise
      (List.Lex (· < ·)) := by
    rw [enteredNodes_eq_map_visits, List.map_map]
    exact pairwise_positions lists (.root (.root source tree)) ⟨rfl, rfl⟩
  refine ⟨?_, mem_events_iff_namedOnWay lists, ?_, ordered, ?_⟩
  · rw [(traversal_tracks schema (.root source tree)).refusal]
    exact visits_not_refused _
  · rintro node ⟨parent?, entered⟩
    obtain ⟨stands, onWay, _⟩ := (mem_events_iff_namedOnWay lists node parent?).mp entered
    by_cases isRoot : node.position = []
    · exact .inl isRoot
    · obtain ⟨found, isFound, named⟩ := onWay node.position List.prefix_rfl isRoot
      rw [stands.1] at isFound
      cases isFound
      exact .inr named
  · apply ordered.imp
    intro left right before same
    rw [same] at before
    exact Std.Irrefl.irrefl right before

theorem listsChildren_branch {info : SyntaxInfo} {trees : List SyntaxTree}
    (direct : ∀ child ∈ trees, child.info.field? ≠ some childrenField)
    (below : ∀ child ∈ trees, ListsChildren child) : ListsChildren (.branch info trees) := by
  intro position node found
  cases position with
  | nil =>
      cases found
      exact direct
  | cons index rest =>
      obtain ⟨child, atIndex, found⟩ := Option.bind_eq_some_iff.mp found
      exact below child (List.mem_of_getElem? atIndex) rest node found

/-- A sum of two names, whose operator is an anonymous token in a grammar field. -/
def sumOfNames : SyntaxTree :=
  .branch ⟨"binary_expression", none, true, 0, 3, 0, false, false, false⟩
    [.branch ⟨"identifier", some "left", true, 0, 1, 0, false, false, false⟩ [],
      .branch ⟨"+", some "operator", false, 1, 2, 0, false, false, false⟩ [],
      .branch ⟨"identifier", some "right", true, 2, 3, 0, false, false, false⟩ []]

/-- The traversal enters the right name from the sum, and does not enter the operator. -/
theorem sumOfNames_enters_right_name :
    ListsChildren sumOfNames ∧
      .enter ⟨[2], .branch ⟨"identifier", some "right", true, 2, 3, 0, false, false, false⟩ [],
          "a+b"⟩ (some (.root "a+b" sumOfNames)) ∈
        (traversalEvents schema (.root "a+b" sumOfNames)).state ∧
      ¬ Enters schema (.root "a+b" sumOfNames)
        ⟨[1], .branch ⟨"+", some "operator", false, 1, 2, 0, false, false, false⟩ [], "a+b"⟩ := by
  have lists : ListsChildren sumOfNames := by
    apply listsChildren_branch
    · simp [SyntaxTree.info, childrenField]
    · intro child isChild
      simp only [List.mem_cons, List.not_mem_nil, or_false] at isChild
      rcases isChild with rfl | rfl | rfl <;> exact listsChildren_branch (by simp) (by simp)
  obtain ⟨_, entered_iff, namedOnly, _⟩ := traversal_enters_named_nodes "a+b" lists
  refine ⟨lists, (entered_iff _ _).mpr ⟨⟨rfl, rfl⟩, ?_, rfl⟩, ?_⟩
  · show NamedOnWay sumOfNames ([] ++ [2])
    rw [namedOnWay_concat_iff]
    exact ⟨namedOnWay_nil sumOfNames, _, rfl, rfl⟩
  · intro entered
    rcases namedOnly _ entered with isRoot | named
    · cases isRoot
    · cases named

end SourceNode

end SyntaxQuery
