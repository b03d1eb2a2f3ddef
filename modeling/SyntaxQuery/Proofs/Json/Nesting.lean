import SyntaxQuery.Proofs.Json.Keys

/-!
Contract: how deeply the containers of a value nest.

Owns: the nesting of a value, and that no value that is read nests deeper than the limit.
Does not own: which texts are refused for their nesting.
-/

namespace SyntaxQuery.Json

mutual

/-- The greatest number of containers that are open at once in the value. -/
def nesting : Json → Nat
  | .array items => itemNesting items + 1
  | .object members => memberNesting members + 1
  | _ => 0

/-- The greatest nesting among the elements of an array. -/
def itemNesting : List Json → Nat
  | [] => 0
  | item :: rest => max (nesting item) (itemNesting rest)

/-- The greatest nesting among the values of the members of an object. -/
def memberNesting : List (String × Json) → Nat
  | [] => 0
  | (_, value) :: rest => max (nesting value) (memberNesting rest)

end

theorem itemNesting_le_iff {items : List Json} {bound : Nat} :
    itemNesting items ≤ bound ↔ ∀ item ∈ items, item.nesting ≤ bound := by
  induction items with
  | nil => simp [itemNesting]
  | cons item rest inductionHypothesis =>
      rw [itemNesting, Nat.max_le, inductionHypothesis, List.forall_mem_cons]

theorem memberNesting_le_iff {members : List (String × Json)} {bound : Nat} :
    memberNesting members ≤ bound ↔ ∀ member ∈ members, member.2.nesting ≤ bound := by
  induction members with
  | nil => simp [memberNesting]
  | cons member rest inductionHypothesis =>
      rw [memberNesting, Nat.max_le, inductionHypothesis, List.forall_mem_cons]

theorem add_itemNesting_le_iff {items : List Json} {around bound : Nat} :
    around + itemNesting items ≤ bound ↔
      around ≤ bound ∧ ∀ item ∈ items, around + item.nesting ≤ bound := by
  induction items with
  | nil => simp [itemNesting]
  | cons item rest inductionHypothesis =>
      rw [itemNesting, ← Nat.add_max_add_left, Nat.max_le, inductionHypothesis, List.forall_mem_cons,
        and_left_comm]

theorem memberNesting_append (before after : List (String × Json)) :
    memberNesting (before ++ after) = max (memberNesting before) (memberNesting after) := by
  induction before with
  | nil => simp [memberNesting]
  | cons member rest inductionHypothesis =>
      rw [List.cons_append, memberNesting, memberNesting, inductionHypothesis, Nat.max_assoc]

theorem nesting_array_le_iff {items : List Json} {bound : Nat} :
    (Json.array items).nesting ≤ bound + 1 ↔ ∀ item ∈ items, item.nesting ≤ bound := by
  rw [nesting, Nat.add_le_add_iff_right, itemNesting_le_iff]

theorem nesting_object_le_iff {members : List (String × Json)} {bound : Nat} :
    (Json.object members).nesting ≤ bound + 1 ↔ ∀ member ∈ members, member.2.nesting ≤ bound := by
  rw [nesting, Nat.add_le_add_iff_right, memberNesting_le_iff]

theorem nesting_item_lt {items : List Json} {item : Json} (isItem : item ∈ items) :
    item.nesting < (Json.array items).nesting := by
  rw [nesting, Nat.lt_succ_iff]
  exact itemNesting_le_iff.mp (Nat.le_refl _) item isItem

theorem nesting_member_lt {key : String} {members : List (String × Json)} {value : Json}
    (found : lookup? key members = some value) :
    value.nesting < (Json.object members).nesting := by
  rw [nesting, Nat.lt_succ_iff]
  exact memberNesting_le_iff.mp (Nat.le_refl _) _ (mem_of_lookup? found)

theorem kept_nesting : Kept fun room value => value.nesting ≤ room where
  null _ := Nat.zero_le _
  bool _ _ := Nat.zero_le _
  string _ _ := Nat.zero_le _
  noItems room := Nat.succ_le_succ (Nat.zero_le room)
  append {room items item} before within := by
    rw [nesting_array_le_iff] at before ⊢
    intro held member
    rcases List.mem_append.mp member with earlier | last
    · exact before held earlier
    · rw [List.mem_singleton.mp last]
      exact within
  noMembers room := Nat.succ_le_succ (Nat.zero_le room)
  put {room members value} before within key := by
    rw [nesting_object_le_iff] at before ⊢
    intro member isMember
    rcases mem_put isMember with rfl | earlier
    · exact within
    · exact before member earlier

/-- What is read nests no deeper than the limit. -/
theorem nesting_le_of_parse? {text : String} {value : Json} (read : parse? text = some value) :
    value.nesting ≤ textNestingLimit :=
  kept_nesting.of_parse? (fun _ _ _ _ room => Nat.zero_le room) read

end SyntaxQuery.Json
