import Mathlib.Data.List.Nodup
import SyntaxQuery.Proofs.Json.Invariants

/-!
Contract: objects whose keys are distinct.

A repeated key keeps its first place when a text is read, so no object of a value that was read has
two members under one key (`keysDistinct_of_parse?`).

Does not own: what the members of an object are used for.
-/

namespace SyntaxQuery.Json

mutual

/-- No object in the value, at any depth, has two members under one key. -/
def KeysDistinct : Json → Prop
  | .array items => ItemKeysDistinct items
  | .object members => (members.map Prod.fst).Nodup ∧ MemberKeysDistinct members
  | _ => True

/-- The keys are distinct in each element of an array. -/
def ItemKeysDistinct : List Json → Prop
  | [] => True
  | item :: rest => item.KeysDistinct ∧ ItemKeysDistinct rest

/-- The keys are distinct in the value of each member of an object. -/
def MemberKeysDistinct : List (String × Json) → Prop
  | [] => True
  | (_, value) :: rest => value.KeysDistinct ∧ MemberKeysDistinct rest

end

theorem keysDistinct_array_iff {items : List Json} :
    (Json.array items).KeysDistinct ↔ ∀ item ∈ items, item.KeysDistinct := by
  rw [KeysDistinct]
  induction items with
  | nil => simp [ItemKeysDistinct]
  | cons item rest inductionHypothesis =>
      rw [ItemKeysDistinct, inductionHypothesis, List.forall_mem_cons]

theorem keysDistinct_object_iff {members : List (String × Json)} :
    (Json.object members).KeysDistinct ↔
      (members.map Prod.fst).Nodup ∧ ∀ member ∈ members, member.2.KeysDistinct := by
  have members_iff : MemberKeysDistinct members ↔ ∀ member ∈ members, member.2.KeysDistinct := by
    induction members with
    | nil => simp [MemberKeysDistinct]
    | cons member rest inductionHypothesis =>
        rw [MemberKeysDistinct, inductionHypothesis, List.forall_mem_cons]
  rw [KeysDistinct, members_iff]

/-! ## Members -/

theorem mem_of_lookup? {key : String} {members : List (String × Json)} {value : Json}
    (found : lookup? key members = some value) : (key, value) ∈ members := by
  induction members with
  | nil => cases found
  | cons member rest inductionHypothesis =>
      obtain ⟨name, held⟩ := member
      rw [lookup?] at found
      split at found
      · next isKey =>
          cases found
          rw [isKey]
          exact List.mem_cons_self
      · exact List.mem_cons_of_mem _ (inductionHypothesis found)

theorem mem_put {key : String} {value : Json} {members : List (String × Json)}
    {member : String × Json} (found : member ∈ put key value members) :
    member = (key, value) ∨ member ∈ members := by
  induction members with
  | nil => exact .inl (List.mem_singleton.mp found)
  | cons first rest inductionHypothesis =>
      obtain ⟨name, old⟩ := first
      rw [put] at found
      split at found
      · next replaced =>
          subst replaced
          exact (List.mem_cons.mp found).imp_right (List.mem_cons_of_mem _)
      · rcases List.mem_cons.mp found with rfl | later
        · exact .inr List.mem_cons_self
        · exact (inductionHypothesis later).imp_right (List.mem_cons_of_mem _)

theorem nodup_keys_put {members : List (String × Json)} (distinct : (members.map Prod.fst).Nodup)
    (key : String) (value : Json) : ((put key value members).map Prod.fst).Nodup := by
  induction members with
  | nil => exact List.nodup_singleton key
  | cons first rest inductionHypothesis =>
      obtain ⟨name, old⟩ := first
      obtain ⟨fresh, restDistinct⟩ := List.nodup_cons.mp distinct
      rw [put]
      split
      · exact List.nodup_cons.mpr ⟨fresh, restDistinct⟩
      · next kept =>
          refine List.nodup_cons.mpr ⟨fun repeated => ?_, inductionHypothesis restDistinct⟩
          obtain ⟨member, inPut, sameName⟩ := List.mem_map.mp repeated
          rcases mem_put inPut with rfl | inRest
          · exact kept sameName.symm
          · exact fresh (List.mem_map.mpr ⟨member, inRest, sameName⟩)

/-- Setting a key in an object keeps its keys distinct. -/
theorem KeysDistinct.put {members : List (String × Json)} {value : Json}
    (distinct : (Json.object members).KeysDistinct) (valueDistinct : value.KeysDistinct)
    (key : String) : (Json.object (put key value members)).KeysDistinct := by
  obtain ⟨keys, values⟩ := keysDistinct_object_iff.mp distinct
  refine keysDistinct_object_iff.mpr ⟨nodup_keys_put keys key value, fun member inPut => ?_⟩
  rcases mem_put inPut with rfl | inMembers
  · exact valueDistinct
  · exact values member inMembers

theorem keysDistinct_object_nil : (Json.object []).KeysDistinct :=
  keysDistinct_object_iff.mpr ⟨List.nodup_nil, fun _ member => absurd member List.not_mem_nil⟩

/-! ## Values that were read -/

theorem kept_keysDistinct : Kept fun _ value => value.KeysDistinct where
  null _ := trivial
  bool _ _ := trivial
  string _ _ := trivial
  noItems _ := trivial
  append {_ items item} before distinct := by
    refine keysDistinct_array_iff.mpr fun held member => ?_
    rcases List.mem_append.mp member with earlier | last
    · exact keysDistinct_array_iff.mp before held earlier
    · rw [List.mem_singleton.mp last]
      exact distinct
  noMembers _ := keysDistinct_object_nil
  put before distinct key := before.put distinct key

/-- A value that was read from a text has distinct keys in each of its objects. -/
theorem keysDistinct_of_parse? {text : String} {value : Json} (read : parse? text = some value) :
    value.KeysDistinct :=
  kept_keysDistinct.of_parse? (fun _ _ _ _ _ => trivial) read

end SyntaxQuery.Json
