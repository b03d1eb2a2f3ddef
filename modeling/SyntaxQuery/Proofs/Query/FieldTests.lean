import SyntaxQuery.Document.Schema
import SyntaxQuery.Proofs.Document.Positions
import SyntaxQuery.Proofs.Query.Edges
import SyntaxQuery.Proofs.Source.Positions

/-!
Contract: field tests in documents and in source trees.

A record of a document is where its position says, and the last step of the position is the field
that leads to it, alone or at an index. So the segments of a field test are the names of the last
fields that the traversal went through. In a source tree the position has child indices only, and a
segment leads to a child by its grammar field or as one of the named children.

Does not own: the search for a node from an ancestor.
-/

namespace SyntaxQuery

/-! ## Documents -/

namespace DocumentNode

/-- The record is where its position says. -/
def StandsIn (document : Json) (node : DocumentNode) : Prop :=
  document.follow? node.position = some node.value

theorem StandsIn.eq_of_position_eq {document : Json} {left right : DocumentNode}
    (leftStands : StandsIn document left) (rightStands : StandsIn document right)
    (same : left.position = right.position) : left = right := by
  unfold StandsIn at leftStands rightStands
  rw [same, rightStands] at leftStands
  obtain ⟨leftPosition, leftValue⟩ := left
  cases same
  cases leftStands
  rfl

theorem isRecordTree (document : Json) : IsRecordTree (StandsIn document) where
  same_iff leftStands rightStands := by
    constructor
    · exact fun same => leftStands.eq_of_position_eq rightStands (beq_iff_eq.mp same)
    · exact fun same => beq_iff_eq.mpr (congrArg position same)
  holds_of_mem parentStands held := by
    obtain ⟨steps, _, position, value⟩ := exists_steps_of_mem_records held
    unfold StandsIn at parentStands ⊢
    rw [position, Json.follow?_append, parentStands, Option.bind_some, value]
  parent_eq parentStands otherStands held otherHeld := by
    obtain ⟨_, isPath, position, _⟩ := exists_steps_of_mem_records held
    obtain ⟨_, isOtherPath, otherPosition, _⟩ := exists_steps_of_mem_records otherHeld
    exact parentStands.eq_of_position_eq otherStands
      (isPath.append_inj isOtherPath (position.symm.trans otherPosition)).1

/-- Only the name of the field that the traversal went through leads along an edge. -/
theorem leadsAlong_iff_eq {schema : Schema DocumentNode} {name : String}
    {edge : DocumentNode × DocumentNode} (through : GoesThrough schema name edge)
    (segment : String) : LeadsAlong segment edge ↔ segment = name := by
  constructor
  · intro leads
    obtain ⟨_, isPath, position, _⟩ := exists_steps_of_mem_records leads
    obtain ⟨_, isOtherPath, otherPosition, _⟩ := exists_steps_of_mem_records through.leadsAlong
    -- Both paths lead to one position from one parent, so they begin with the same name.
    obtain ⟨_, rfl⟩ := isPath.append_inj isOtherPath (position.symm.trans otherPosition)
    exact isPath.name_eq isOtherPath
  · rintro rfl
    exact through.leadsAlong

end DocumentNode

theorem names_eq {schema : Schema DocumentNode} {names others : List String}
    {edges : List (DocumentNode × DocumentNode)}
    (through : List.Forall₂ (GoesThrough schema) names edges)
    (otherThrough : List.Forall₂ (GoesThrough schema) others edges) : names = others := by
  have unique : Relator.LeftUnique (GoesThrough schema) := fun _ _ _ first second =>
    (DocumentNode.leadsAlong_iff_eq second _).mp first.leadsAlong
  exact List.left_unique_forall₂' unique through otherThrough

/-- A field test holds at a visited node of a document exactly when its segments are the names of
the last fields that lead to the node. -/
theorem document_field_holds_iff {document : Json} {root : DocumentNode}
    {schema : Schema DocumentNode} (isRoot : DocumentNode.root? document = some root)
    {visit : Visit DocumentNode} (member : visit ∈ (visits schema (.root root)).state)
    {names : List String} (through : List.Forall₂ (GoesThrough schema) names visit.edges)
    (path : String) :
    (NodeTest.field path).holds visit.node visit.ancestry = true ↔
      Text.segments path <:+ names := by
  have rootStands : DocumentNode.StandsIn document root := by
    rw [DocumentNode.eq_of_root? isRoot]
    rfl
  have labelled : List.Forall₂ (fun name edge => ∀ segment, LeadsAlong segment edge ↔
      segment = name) names visit.edges :=
    through.imp fun _ _ along => DocumentNode.leadsAlong_iff_eq along
  rw [(DocumentNode.isRecordTree document).field_holds_iff rootStands member labelled]
  simp only [List.forall₂_eq_eq_eq, exists_eq_right']

/-! ## Source trees -/

namespace SourceNode

/-- The node is where its position says. -/
def StandsIn (source : String) (tree : SyntaxTree) (node : SourceNode) : Prop :=
  tree.at? node.position = some node.tree ∧ node.source = source

theorem StandsIn.eq_of_position_eq {source : String} {tree : SyntaxTree} {left right : SourceNode}
    (leftStands : StandsIn source tree left) (rightStands : StandsIn source tree right)
    (same : left.position = right.position) : left = right := by
  obtain ⟨leftPosition, leftTree, leftSource⟩ := left
  obtain ⟨rightPosition, rightTree, rightSource⟩ := right
  obtain ⟨leftAt, rfl⟩ := leftStands
  obtain ⟨rightAt, rfl⟩ := rightStands
  cases same
  cases leftAt.symm.trans rightAt
  rfl

theorem mem_all_of_mem_records {node child : SourceNode} {name : String}
    (held : child ∈ (node.field name).records) : child ∈ node.all := by
  rcases mem_records_field_iff.mp held with inGrammarField | ⟨_, _, isChild, _⟩
  · exact (mem_inField_iff.mp inGrammarField).1
  · exact isChild

theorem isRecordTree (source : String) (tree : SyntaxTree) :
    IsRecordTree (StandsIn source tree) where
  same_iff leftStands rightStands := by
    constructor
    · exact fun same => leftStands.eq_of_position_eq rightStands (beq_iff_eq.mp same)
    · exact fun same => beq_iff_eq.mpr (congrArg position same)
  holds_of_mem parentStands held := by
    obtain ⟨index, position, found, sameSource⟩ :=
      exists_index_of_mem_all (mem_all_of_mem_records held)
    refine ⟨?_, sameSource.trans parentStands.2⟩
    rw [position, SyntaxTree.at?_append, parentStands.1, Option.bind_some, SyntaxTree.at?, found]
    rfl
  parent_eq parentStands otherStands held otherHeld := by
    obtain ⟨_, position, _⟩ := exists_index_of_mem_all (mem_all_of_mem_records held)
    obtain ⟨_, otherPosition, _⟩ := exists_index_of_mem_all (mem_all_of_mem_records otherHeld)
    exact parentStands.eq_of_position_eq otherStands
      (List.append_inj' (position.symm.trans otherPosition) rfl).1

/-- A segment names an edge: it is the child's grammar field in the parent, or it is the field that
lists the named children, and the grammar has none of that name there. -/
def Names (segment : String) (edge : SourceNode × SourceNode) : Prop :=
  edge.2.tree.info.field? = some segment ∨
    segment = childrenField ∧
      ∀ child ∈ edge.1.all, child.tree.info.field? ≠ some childrenField

theorem leadsAlong_iff_names {name : String} {edge : SourceNode × SourceNode}
    (through : GoesThrough schema name edge) (segment : String) :
    LeadsAlong segment edge ↔ Names segment edge := by
  obtain ⟨fields, isSchema, isField, held⟩ := through
  cases isSchema
  obtain rfl := List.mem_singleton.mp isField
  unfold LeadsAlong Names
  rw [← inField_eq_nil_iff]
  constructor
  · intro leads
    rcases mem_records_field_iff.mp leads with inGrammarField | ⟨isNil, rfl, _, _⟩
    · exact .inl (mem_inField_iff.mp inGrammarField).2
    · exact .inr ⟨rfl, isNil⟩
  · rintro (inGrammarField | ⟨rfl, _⟩)
    · exact mem_records_field_iff.mpr
        (.inl (mem_inField_iff.mpr ⟨mem_all_of_mem_field _ _ _ held, inGrammarField⟩))
    · exact Value.nodes_subset_records _ held

end SourceNode

/-- A field test holds at a visited node of a source tree exactly when its segments name the last
edges to the node. -/
theorem source_field_holds_iff {source : String} {tree : SyntaxTree} {visit : Visit SourceNode}
    (member : visit ∈ (visits SourceNode.schema (.root (.root source tree))).state)
    (path : String) :
    (NodeTest.field path).holds visit.node visit.ancestry = true ↔
      ∃ last, last <:+ visit.edges ∧ List.Forall₂ SourceNode.Names (Text.segments path) last := by
  have rootStands : SourceNode.StandsIn source tree (.root source tree) := ⟨rfl, rfl⟩
  obtain ⟨names, through⟩ := exists_names member
  have labelled : List.Forall₂ (fun label edge => ∀ segment, LeadsAlong segment edge ↔
      SourceNode.Names segment label) visit.edges visit.edges := by
    generalize visit.edges = edges at through ⊢
    induction through with
    | nil => exact .nil
    | cons along _ inductionHypothesis =>
        exact .cons (SourceNode.leadsAlong_iff_names along) inductionHypothesis
  exact (SourceNode.isRecordTree source tree).field_holds_iff rootStands member labelled path

/-! ## What a field test says -/

/-- In a document the names of the fields by which the traversal came to a node are determined, and
a field test holds there exactly when its segments are the last of these names. In a source tree it
holds exactly when its segments name the last edges by which the traversal came. -/
theorem field_test_iff :
    (∀ (document : Json) (root : DocumentNode) (schema : Schema DocumentNode),
      DocumentNode.root? document = some root →
      ∀ visit ∈ (visits schema (.root root)).state,
        ∃ names, (∀ others, List.Forall₂ (GoesThrough schema) others visit.edges ↔
            others = names) ∧
          ∀ path subject, Selector.test schema (.single (.field path) subject) visit.node
            visit.ancestry = true ↔ Text.segments path <:+ names) ∧
    ∀ (source : String) (tree : SyntaxTree),
      ∀ visit ∈ (visits SourceNode.schema (.root (.root source tree))).state,
        ∀ path subject, Selector.test SourceNode.schema (.single (.field path) subject) visit.node
          visit.ancestry = true ↔
          ∃ last, last <:+ visit.edges ∧
            List.Forall₂ SourceNode.Names (Text.segments path) last := by
  constructor
  · intro document root schema isRoot visit member
    obtain ⟨names, through⟩ := exists_names member
    refine ⟨names, fun others => ?_,
      fun path _ => document_field_holds_iff isRoot member through path⟩
    constructor
    · exact fun otherThrough => names_eq otherThrough through
    · rintro rfl
      exact through
  · exact fun source tree visit member path _ => source_field_holds_iff member path

def nestedName : Json :=
  .object [("type", .string "Program"), ("body", .array [
    .object [("type", .string "ExpressionStatement"),
      ("expression", .object [("type", .string "Identifier")])]])]

def calledName : SyntaxTree :=
  .branch ⟨"call_expression", none, true, 0, 3, 0, false, false, false⟩
    [.branch ⟨"identifier", some "function", true, 0, 1, 0, false, false, false⟩ []]

/-- The name in the document is found through the fields `body` and `expression`, and the called
name in the source tree through its grammar field or among the named children. -/
theorem field_test_at_names :
    (DocumentNode.root? nestedName = some ⟨[], nestedName⟩ ∧
      ∃ visit ∈ (visits DocumentSchema.standard.childFields (.root ⟨[], nestedName⟩)).state,
        ∀ path subject, Selector.test DocumentSchema.standard.childFields
          (.single (.field path) subject) visit.node visit.ancestry = true ↔
          Text.segments path <:+ ["body", "expression"]) ∧
    ∃ visit ∈ (visits SourceNode.schema (.root (.root "f()" calledName))).state,
      ∀ path subject, Selector.test SourceNode.schema (.single (.field path) subject) visit.node
        visit.ancestry = true ↔
        ∃ last, last <:+ visit.edges ∧
          List.Forall₂ SourceNode.Names (Text.segments path) last := by
  have isRoot : DocumentNode.root? nestedName = some ⟨[], nestedName⟩ := rfl
  let statement : DocumentNode := ⟨[.member "body", .element 0],
    .object [("type", .string "ExpressionStatement"),
      ("expression", .object [("type", .string "Identifier")])]⟩
  let name : DocumentNode := ⟨[.member "body", .element 0, .member "expression"],
    .object [("type", .string "Identifier")]⟩
  have body : children DocumentSchema.standard.childFields ⟨[], nestedName⟩ = .ok [statement] := rfl
  have expression : children DocumentSchema.standard.childFields statement = .ok [name] := rfl
  have nameLeaf : children DocumentSchema.standard.childFields name = .ok [] := rfl
  have member : ⟨name, [statement, ⟨[], nestedName⟩]⟩ ∈
      (visits DocumentSchema.standard.childFields (.root ⟨[], nestedName⟩)).state := by
    rw [visits_of_children body]
    simp only [List.map_cons, List.map_nil]
    rw [visits_of_children expression]
    simp only [List.map_cons, List.map_nil]
    rw [visits_of_children nameLeaf]
    exact List.mem_cons_of_mem _ (List.mem_cons_of_mem _ List.mem_cons_self)
  have through : List.Forall₂ (GoesThrough DocumentSchema.standard.childFields)
      ["body", "expression"] (Visit.edges ⟨name, [statement, ⟨[], nestedName⟩]⟩) :=
    .cons ⟨["body"], rfl, List.mem_singleton_self _, List.mem_singleton_self _⟩
      (.cons ⟨["expression"], rfl, List.mem_singleton_self _, List.mem_singleton_self _⟩ .nil)
  let called : SourceNode := ⟨[0],
    .branch ⟨"identifier", some "function", true, 0, 1, 0, false, false, false⟩ [], "f()"⟩
  have named : children SourceNode.schema (.root "f()" calledName) = .ok [called] := rfl
  have calledLeaf : children SourceNode.schema called = .ok [] := rfl
  have sourceMember : ⟨called, [.root "f()" calledName]⟩ ∈
      (visits SourceNode.schema (.root (.root "f()" calledName))).state := by
    rw [visits_of_children named]
    simp only [List.map_cons, List.map_nil]
    rw [visits_of_children calledLeaf]
    exact List.mem_cons_of_mem _ List.mem_cons_self
  obtain ⟨names, names_iff, holds_iff⟩ := field_test_iff.1 nestedName _ _ isRoot _ member
  obtain rfl := (names_iff _).mp through
  exact ⟨⟨isRoot, _, member, holds_iff⟩, _, sourceMember, field_test_iff.2 _ _ _ sourceMember⟩

end SyntaxQuery
