import SyntaxQuery.Source.Node

/-!
Contract: the count of the syntax errors in a source tree.

The count enters a tree only where a flag says that an error or a missing node is in it. If the
flags are right (`FlagsErrors`), all that it passes over is sound, and what it counts is every faulty
node of the tree, at any depth and anonymous tokens among them.

Does not own: how a parser sets the flags.
-/

namespace SyntaxQuery.SyntaxTree

mutual

/-- The nodes of a tree, each as the tree below it: the root first, and every node before those
below it. -/
def parts : SyntaxTree → List SyntaxTree
  | .branch info children => .branch info children :: allParts children

/-- The nodes of several trees. -/
def allParts : List SyntaxTree → List SyntaxTree
  | [] => []
  | tree :: rest => parts tree ++ allParts rest

end

/-- The flag of the root is set exactly when the root or a node below it is an error or missing. -/
def FlagsError (tree : SyntaxTree) : Prop :=
  tree.info.hasError = true ↔ ∃ part ∈ tree.parts, part.isFaulty = true

instance (tree : SyntaxTree) : Decidable tree.FlagsError :=
  inferInstanceAs (Decidable (_ ↔ ∃ part ∈ tree.parts, part.isFaulty = true))

/-- The flags of all nodes are set exactly when they should be. -/
def FlagsErrors (tree : SyntaxTree) : Prop :=
  ∀ part ∈ tree.parts, part.FlagsError

instance (tree : SyntaxTree) : Decidable tree.FlagsErrors :=
  inferInstanceAs (Decidable (∀ part ∈ tree.parts, part.FlagsError))

theorem mem_parts_self (tree : SyntaxTree) : tree ∈ tree.parts := by
  cases tree with
  | branch info children => exact List.mem_cons_self

/-- A tree whose flag is right and not set has no faulty node. -/
theorem FlagsError.countP_eq_zero {tree : SyntaxTree} (flagged : tree.FlagsError)
    (unset : tree.info.hasError = false) : tree.parts.countP isFaulty = 0 := by
  rw [List.countP_eq_zero]
  intro part isPart faulty
  have set := flagged.mpr ⟨part, isPart, faulty⟩
  rw [unset] at set
  cases set

mutual

/-- Where the flags are right, no faulty node is passed over, and none is counted twice. -/
theorem errorCount_eq_countP : ∀ tree : SyntaxTree, tree.FlagsErrors →
    tree.errorCount = tree.parts.countP isFaulty
  | .branch info children, flagged => by
      have below := errorCounts_eq_countP children fun part isPart =>
        flagged part (List.mem_cons_of_mem _ isPart)
      have whole : (branch info children).parts.countP isFaulty =
          (allParts children).countP isFaulty +
            if info.isError || info.isMissing then 1 else 0 :=
        List.countP_cons
      cases set : info.hasError with
      | true => rw [errorCount, if_pos set, below, whole, Nat.add_comm]
      | false =>
          -- The whole count is zero, and the root's own share of it is all that is counted.
          have sound := (flagged _ (mem_parts_self _)).countP_eq_zero set
          rw [errorCount, set, if_neg Bool.false_ne_true]
          omega

theorem errorCounts_eq_countP : ∀ trees : List SyntaxTree,
    (∀ part ∈ allParts trees, part.FlagsError) →
      errorCounts trees = (allParts trees).countP isFaulty
  | [], _ => rfl
  | tree :: rest, flagged => by
      rw [allParts, List.forall_mem_append] at flagged
      rw [errorCounts, allParts, List.countP_append, errorCount_eq_countP tree flagged.1,
        errorCounts_eq_countP rest flagged.2]

end

/-- If every flag is set exactly at the nodes that are faulty or have a faulty node below, the count
is that of all faulty nodes of the tree, and it is positive exactly when the root's flag is set. -/
theorem errorCount_counts_faulty_nodes {tree : SyntaxTree} (flagged : tree.FlagsErrors) :
    tree.errorCount = tree.parts.countP isFaulty ∧
      (0 < tree.errorCount ↔ tree.info.hasError = true) := by
  have counted := errorCount_eq_countP tree flagged
  refine ⟨counted, ?_⟩
  rw [counted, List.countP_pos_iff]
  exact (flagged tree (mem_parts_self tree)).symm

/-- A name and an error beside it. In the error stand another name, which is sound, and an opening
parenthesis before the missing closing one. -/
def brokenCall : SyntaxTree :=
  .branch ⟨"source_file", none, true, 0, 4, 0, false, false, true⟩
    [.branch ⟨"identifier", none, true, 0, 1, 0, false, false, false⟩ [],
      .branch ⟨"ERROR", none, true, 2, 4, 0, true, false, true⟩
        [.branch ⟨"identifier", none, true, 2, 3, 0, false, false, false⟩ [],
          .branch ⟨"arguments", none, true, 3, 4, 0, false, false, true⟩
            [.branch ⟨"(", none, false, 3, 4, 0, false, false, false⟩ [],
              .branch ⟨")", none, false, 4, 4, 0, false, true, true⟩ []]]]

/-- The error and the missing token in it are counted once each. -/
theorem brokenCall_has_two_faults :
    brokenCall.FlagsErrors ∧ brokenCall.errorCount = 2 ∧ brokenCall.info.hasError = true := by
  have flagged : brokenCall.FlagsErrors := by decide
  obtain ⟨counted, positive_iff⟩ := errorCount_counts_faulty_nodes flagged
  have two : brokenCall.errorCount = 2 := counted.trans (by decide)
  exact ⟨flagged, two, positive_iff.mp (two ▸ Nat.two_pos)⟩

end SyntaxQuery.SyntaxTree
