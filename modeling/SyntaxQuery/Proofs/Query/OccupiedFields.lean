import SyntaxQuery.Document.Schema
import SyntaxQuery.Proofs.Query.Images
import SyntaxQuery.Proofs.Traversal.Extension

/-!
Contract: what a query takes from its schema.

A query depends on the schema through the occupied fields of the nodes that it enters and no
further. What the schema refuses is never asked about after the refusal, so a test need not say
which lists a refused parent has. Both follow from the images of queries, with each node as its own
image.

Does not own: trees that differ.
-/

namespace SyntaxQuery

variable {ν : Type}

/-- Whether a value is a node or a list. -/
def Value.mayHoldNodes : Value ν → Bool
  | .node _ => true
  | .list _ => true
  | _ => false

theorem Value.mayHoldNodes_of_nodes {value : Value ν} (holds : (!value.nodes.isEmpty) = true) :
    value.mayHoldNodes = true := by
  cases value with
  | node held => rfl
  | list items => rfl
  | _ => cases holds

theorem Event.map_id : Event.map (id : ν → ν) = id := by
  funext event
  cases event with
  | enter node parent? => rw [Event.map, Option.map_id]; rfl
  | leave node parent? => rw [Event.map, Option.map_id]; rfl

variable [SyntaxNode ν]

/-- The child fields of a node that hold a node or a list, or the refusal of the node. -/
def occupiedFields (schema : Schema ν) (node : ν) : Except UnknownNodeType (List String) :=
  (schema node).map (List.filter fun name => (SyntaxNode.field node name).mayHoldNodes)

/-- The values with nodes in them are those of occupied fields. -/
theorem heldValues_eq_occupiedFields (schema : Schema ν) (node : ν) :
    heldValues schema node = (occupiedFields schema node).map fun names =>
      (names.map (SyntaxNode.field node)).filter fun value => !value.nodes.isEmpty := by
  unfold heldValues occupiedFields
  cases schema node with
  | error refusal => rfl
  | ok fields =>
      simp only [Except.map, List.filter_map, List.filter_filter]
      refine congrArg (fun names => Except.ok (List.map _ names)) (List.filter_congr ?_)
      intro name _
      exact (Bool.and_eq_left_iff_imp.mpr Value.mayHoldNodes_of_nodes).symm

/-- Each node may be taken for itself. -/
theorem preserves_id : Preserves (fun _ => True) (id : ν → ν) where
  kind_eq _ := rfl
  same_eq _ _ := rfl
  field_eq node name _ := (Value.map_id (SyntaxNode.field node name)).symm

variable {schema other : Schema ν} {root : ν}

theorem agreesAt_id {node : ν} (agree : heldValues other node = heldValues schema node) :
    AgreesAt schema other id node := by
  have unchanged : List.map (Value.map (id : ν → ν)) = id :=
    funext fun values => (congrArg (List.map · values) (funext Value.map_id)).trans (List.map_id _)
  rw [AgreesAt, id_eq, agree, unchanged, Except.map_id]
  rfl

theorem agreesAt_of_occupiedFields {node : ν}
    (agree : occupiedFields other node = occupiedFields schema node) :
    AgreesAt schema other id node := by
  refine agreesAt_id ?_
  rw [heldValues_eq_occupiedFields, heldValues_eq_occupiedFields, agree]

/-- Schemas with the same occupied fields at every node that is entered with one of them traverse
the tree alike, up to the same refusal. -/
theorem traversalEvents_of_occupiedFields
    (agree : ∀ node, Enters schema root node →
      occupiedFields other node = occupiedFields schema node) :
    traversalEvents other root = traversalEvents schema root := by
  have followed := traversalEvents_image fun node entered =>
    agreesAt_of_occupiedFields (agree node entered)
  rw [Event.map_id] at followed
  refine followed.trans ?_
  rw [Outcome.map, List.map_id]

/-- They also have the same outcome for every query. -/
theorem matchTree_of_occupiedFields
    (agree : ∀ node, Enters schema root node →
      occupiedFields other node = occupiedFields schema node) (selector : Selector) :
    matchTree other selector root = matchTree schema selector root := by
  have queried : matchTree other selector (id root) =
      (matchTree schema selector root).map (List.map id) :=
    preserves_id.matchTree_image (fun _ _ => trivial) fun node entered =>
      agreesAt_of_occupiedFields (agree node entered)
  rw [List.map_id_fun, Except.map_id] at queried
  exact queried

/-! ## Schemas that refuse less -/

theorem agreesAt_of_isExtendedBy (extended : IsExtendedBy schema other) {node : ν}
    (accepted : ∃ fields, schema node = .ok fields) : AgreesAt schema other id node := by
  obtain ⟨fields, isAccepted⟩ := accepted
  refine agreesAt_id ?_
  rw [heldValues, heldValues, isAccepted, extended node fields isAccepted]

/-- What a query tests and reports at a visit does not depend on what its schema refuses, because
the ancestors of a visit are accepted. -/
theorem tests_of_isExtendedBy (extended : IsExtendedBy schema other) {visit : Visit ν}
    (member : visit ∈ (visits schema (.root root)).state) (selector : Selector) :
    visit.passes other selector = visit.passes schema selector ∧
      visit.reports other selector = visit.reports schema selector := by
  have agrees : ∀ parent ∈ visit.ancestry, AgreesAt schema other id parent := fun parent isAbove =>
    agreesAt_of_isExtendedBy extended (exists_fields_of_mem_ancestry member isAbove)
  have unchanged : visit.map id = visit := by rw [Visit.map, List.map_id]; rfl
  have tested : selector.test other visit.node (visit.ancestry.map id) =
      visit.passes schema selector :=
    preserves_id.test_image (fun _ _ => trivial) visit.node agrees
  have reported : (visit.map id).reports other selector =
      (visit.reports schema selector).map id :=
    preserves_id.reports_image (fun _ _ => trivial) agrees
  rw [List.map_id] at tested
  rw [List.map_id, unchanged] at reported
  exact ⟨tested, reported⟩

/-- A query whose traversal is not refused has the same outcome with a schema that refuses less. -/
theorem matchTree_of_isExtendedBy (extended : IsExtendedBy schema other)
    (accepted : (traversalEvents schema root).refusal? = none) (selector : Selector) :
    matchTree other selector root = matchTree schema selector root := by
  refine matchTree_of_occupiedFields (fun node entered => ?_) selector
  obtain ⟨fields, isAccepted⟩ := exists_fields_of_accepted accepted entered
  rw [occupiedFields, occupiedFields, isAccepted, extended node fields isAccepted]

/-- With the same table, searching unknown types field by field refuses less than refusing them. -/
theorem DocumentSchema.strict_isExtendedBy {table other : DocumentSchema}
    (sameKeys : ∀ kind, other.keysOf? kind = table.keysOf? kind) :
    IsExtendedBy (table.withFallback .strict).childFields
      (other.withFallback .iteration).childFields := by
  intro node fields accepted
  have keys : (other.withFallback .iteration).keysOf? node.kind =
      (table.withFallback .strict).keysOf? node.kind := sameKeys node.kind
  unfold childFields at accepted ⊢
  rw [keys]
  cases found : (table.withFallback .strict).keysOf? node.kind with
  | some named =>
      rw [found] at accepted
      exact accepted
  | none =>
      rw [found] at accepted
      cases accepted

/-! ## Queries of documents -/

/-- Traversals and queries depend on a schema through the occupied fields of the entered nodes only.
So where a strict traversal is not refused, searching unknown types field by field gives the same
results, and where it is refused, its events come first in the lenient traversal. At every visit, of
a refused traversal too, the ancestors are accepted, and no test depends on what is refused. -/
theorem query_uses_occupied_fields (root : DocumentNode) :
    (∀ schema other : Schema DocumentNode,
      (∀ node, Enters schema root node → occupiedFields other node = occupiedFields schema node) →
        traversalEvents other root = traversalEvents schema root ∧
          ∀ selector, matchTree other selector root = matchTree schema selector root) ∧
    (∀ table other : DocumentSchema, (∀ kind, other.keysOf? kind = table.keysOf? kind) →
      ((traversalEvents (table.withFallback .strict).childFields root).refusal? = none →
        traversalEvents (other.withFallback .iteration).childFields root =
            traversalEvents (table.withFallback .strict).childFields root ∧
          ∀ selector, matchTree (other.withFallback .iteration).childFields selector root =
            matchTree (table.withFallback .strict).childFields selector root) ∧
      (traversalEvents (table.withFallback .strict).childFields root).state <+:
        (traversalEvents (other.withFallback .iteration).childFields root).state) ∧
    ∀ schema : Schema DocumentNode, ∀ visit ∈ (visits schema (.root root)).state,
      (∀ parent ∈ visit.ancestry, ∃ fields, schema parent = .ok fields) ∧
        ∀ other, IsExtendedBy schema other → ∀ selector,
          visit.passes other selector = visit.passes schema selector ∧
            visit.reports other selector = visit.reports schema selector := by
  refine ⟨fun schema other agree => ?_, fun table other sameKeys => ?_,
    fun schema visit member => ?_⟩
  · exact ⟨traversalEvents_of_occupiedFields agree, matchTree_of_occupiedFields agree⟩
  · have extended := DocumentSchema.strict_isExtendedBy sameKeys
    have begins := traversalEvents_begins extended root
    exact ⟨fun accepted => ⟨begins.eq_of_accepted accepted,
      matchTree_of_isExtendedBy extended accepted⟩, begins.isPrefix⟩
  · exact ⟨fun parent => exists_fields_of_mem_ancestry member,
      fun other extended => tests_of_isExtendedBy extended member⟩

/-- Tables in which the type of the outer node stands, alone and with the type of the inner one. -/
def outerTable : DocumentSchema :=
  ⟨[("A", ["b"])], .strict⟩

@[inherit_doc outerTable]
def bothTable : DocumentSchema :=
  ⟨[("A", ["b"]), ("B", [])], .strict⟩

/-- The outer node's type is text and thus no occupied field. The strict traversal is not refused
where both types are in the table; where the inner one is missing, the traversal is refused there,
below an accepted node. -/
theorem outerNode_queried_by_occupied_fields :
    (∀ node, Enters (fun _ => .ok ["b"]) outerNode node →
      occupiedFields (fun _ => .ok ["type", "b"]) node =
        occupiedFields (fun _ => .ok ["b"]) node) ∧
    traversalEvents (fun _ => .ok ["type", "b"]) outerNode =
      traversalEvents (fun _ => .ok ["b"]) outerNode ∧
    (traversalEvents (bothTable.withFallback .strict).childFields outerNode).refusal? = none ∧
    traversalEvents (bothTable.withFallback .iteration).childFields outerNode =
      traversalEvents (bothTable.withFallback .strict).childFields outerNode ∧
    (traversalEvents (outerTable.withFallback .strict).childFields outerNode).refusal? =
      some ⟨"B"⟩ ∧
    (traversalEvents (outerTable.withFallback .strict).childFields outerNode).state <+:
      (traversalEvents (outerTable.withFallback .iteration).childFields outerNode).state ∧
    (∃ fields, (outerTable.withFallback .strict).childFields outerNode = .ok fields) ∧
    Visit.passes (outerTable.withFallback .iteration).childFields (.single .wildcard false)
        ⟨innerNode, [outerNode]⟩ =
      Visit.passes (outerTable.withFallback .strict).childFields (.single .wildcard false)
        ⟨innerNode, [outerNode]⟩ := by
  obtain ⟨bySchema, byTable, atVisits⟩ := query_uses_occupied_fields outerNode
  have agree : ∀ node, Enters (fun _ => .ok ["b"]) outerNode node →
      occupiedFields (fun _ => .ok ["type", "b"]) node =
        occupiedFields (fun _ => .ok ["b"]) node := by
    intro node entered
    obtain ⟨ancestry, member⟩ := enters_iff.mp entered
    rw [visits_outerNode] at member
    rcases List.mem_cons.mp member with isOuter | isInner
    · cases isOuter
      rfl
    · cases List.mem_singleton.mp isInner
      rfl
  have accepted :
      (traversalEvents (bothTable.withFallback .strict).childFields outerNode).refusal? = none := by
    have outerKids : children (bothTable.withFallback .strict).childFields outerNode =
        .ok [innerNode] := rfl
    have innerKids : children (bothTable.withFallback .strict).childFields innerNode = .ok [] := rfl
    rw [(traversal_tracks _ _).refusal, visits_of_children outerKids]
    simp only [List.map_cons, List.map_nil]
    rw [visits_of_children innerKids]
    rfl
  have refused : visits (outerTable.withFallback .strict).childFields (.root outerNode) =
      ⟨[⟨outerNode, []⟩, ⟨innerNode, [outerNode]⟩], some ⟨"B"⟩⟩ := by
    have outerKids : children (outerTable.withFallback .strict).childFields outerNode =
        .ok [innerNode] := rfl
    have innerRefused : children (outerTable.withFallback .strict).childFields innerNode =
        .error ⟨"B"⟩ := rfl
    rw [visits_of_children outerKids]
    simp only [List.map_cons, List.map_nil]
    rw [visits_of_refused innerRefused]
    rfl
  have member : ⟨innerNode, [outerNode]⟩ ∈
      (visits (outerTable.withFallback .strict).childFields (.root outerNode)).state := by
    rw [refused]
    exact List.mem_cons_of_mem _ List.mem_cons_self
  obtain ⟨acceptedAbove, sameTests⟩ := atVisits _ _ member
  exact ⟨agree, (bySchema _ _ agree).1, accepted,
    ((byTable bothTable bothTable fun _ => rfl).1 accepted).1,
    by rw [(traversal_tracks _ _).refusal, refused],
    (byTable outerTable outerTable fun _ => rfl).2, acceptedAbove outerNode List.mem_cons_self,
    (sameTests _ (DocumentSchema.strict_isExtendedBy fun _ => rfl) _).1⟩

end SyntaxQuery
