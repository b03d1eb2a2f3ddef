import SyntaxQuery.Json.Printer
import SyntaxQuery.Proofs.Json.Nesting

/-!
Contract: putting the tokens of a value together again.

The tokens of a value with distinct keys give the value back if it nests within the limit, and are
refused if it does not (`ofTokens?_tokens`). The induction is on the value, with any tokens behind it
and any containers around it.

Does not own: the text of the tokens.
-/

namespace SyntaxQuery.Json

open Assembly

theorem put_of_fresh {key : String} {members : List (String × Json)}
    (fresh : key ∉ members.map Prod.fst) (value : Json) :
    put key value members = members ++ [(key, value)] := by
  induction members with
  | nil => rfl
  | cons member rest inductionHypothesis =>
      obtain ⟨name, held⟩ := member
      rw [List.map_cons, List.mem_cons, not_or] at fresh
      rw [put, if_neg (Ne.symm fresh.1), inductionHypothesis fresh.2, List.cons_append]

variable (limit : Nat)

theorem run_beginArray (containers : List Container) (rest : List Token) :
    run (some limit) ⟨containers, .value⟩ (.beginArray :: rest) =
      if containers.length < limit then
        run (some limit) ⟨.array [] :: containers, .itemOrEnd⟩ rest
      else none := by
  by_cases within : containers.length < limit <;> simp [run, step, beginValue, mayOpen, within]

theorem run_beginObject (containers : List Container) (rest : List Token) :
    run (some limit) ⟨containers, .value⟩ (.beginObject :: rest) =
      if containers.length < limit then
        run (some limit) ⟨.object [] "" :: containers, .keyOrEnd⟩ rest
      else none := by
  by_cases within : containers.length < limit <;> simp [run, step, beginValue, mayOpen, within]

theorem tokens_array_append (items : List Json) (rest : List Token) :
    (Json.array items).tokens ++ rest = .beginArray :: (itemTokens items ++ .endArray :: rest) := by
  simp [tokens]

theorem tokens_object_append (members : List (String × Json)) (rest : List Token) :
    (Json.object members).tokens ++ rest =
      .beginObject :: (memberTokens members ++ .endObject :: rest) := by
  simp [tokens]

theorem itemTokens_cons_append (item : Json) (items : List Json) (rest : List Token) :
    itemTokens (item :: items) ++ rest =
      item.tokens ++ match items with
        | [] => rest
        | next :: later => .comma :: (itemTokens (next :: later) ++ rest) := by
  cases items <;> simp [itemTokens]

theorem memberTokens_cons_append (key : String) (value : Json) (members : List (String × Json))
    (rest : List Token) :
    memberTokens ((key, value) :: members) ++ rest =
      .string key :: .colon :: (value.tokens ++ match members with
        | [] => rest
        | next :: later => .comma :: (memberTokens (next :: later) ++ rest)) := by
  cases members <;> simp [memberTokens]

/-- The first element of an array is read like the others. -/
theorem run_itemOrEnd (outer : List Container) (value : Json) (rest : List Token) :
    run (some limit) ⟨.array [] :: outer, .itemOrEnd⟩ (value.tokens ++ rest) =
      run (some limit) ⟨.array [] :: outer, .value⟩ (value.tokens ++ rest) := by
  cases value <;> rfl

theorem run_keyOrEnd (outer : List Container) (member : String × Json)
    (members : List (String × Json)) (rest : List Token) :
    run (some limit) ⟨.object [] "" :: outer, .keyOrEnd⟩ (memberTokens (member :: members) ++ rest) =
      run (some limit) ⟨outer, .key []⟩ (memberTokens (member :: members) ++ rest) := by
  obtain ⟨key, value⟩ := member
  rw [memberTokens_cons_append]
  rfl

/-- A key and its colon open the place for the value. -/
theorem run_key (outer : List Container) (done : List (String × Json)) (key : String)
    (rest : List Token) :
    run (some limit) ⟨outer, .key done⟩ (.string key :: .colon :: rest) =
      run (some limit) ⟨.object done key :: outer, .value⟩ rest :=
  rfl

theorem fresh_of_nodup {done rest : List (String × Json)} {key : String} {value : Json}
    (nodup : ((done ++ (key, value) :: rest).map Prod.fst).Nodup) : key ∉ done.map Prod.fst := by
  rw [List.map_append, List.map_cons] at nodup
  intro isDone
  exact (List.nodup_append.mp nodup).2.2 key isDone key List.mem_cons_self rfl

mutual

theorem run_tokens : ∀ value : Json, value.KeysDistinct → ∀ containers : List Container,
    containers.length ≤ limit → ∀ rest,
    run (some limit) ⟨containers, .value⟩ (value.tokens ++ rest) =
      if containers.length + value.nesting ≤ limit then
        run (some limit) (complete containers value) rest
      else none
  | .null, _, _, within, _ => (if_pos within).symm
  | .bool _, _, _, within, _ => (if_pos within).symm
  | .number _, _, _, within, _ => (if_pos within).symm
  | .string _, _, _, within, _ => (if_pos within).symm
  | .array [], _, containers, _, rest => by
      rw [tokens_array_append, run_beginArray]
      rfl
  | .array (first :: items), distinct, containers, within, rest => by
      have read (mayOpen : containers.length < limit) :=
        run_itemTokens (first :: items) distinct (List.cons_ne_nil _ _) containers [] mayOpen rest
      rw [tokens_array_append, run_beginArray, itemTokens_cons_append, run_itemOrEnd,
        ← itemTokens_cons_append]
      rw [ite_congr rfl read fun _ => rfl, ← ite_and, nesting]
      exact if_congr (by omega) rfl rfl
  | .object [], _, containers, _, rest => by
      rw [tokens_object_append, run_beginObject]
      rfl
  | .object (member :: members), distinct, containers, within, rest => by
      have read (mayOpen : containers.length < limit) :=
        run_memberTokens (member :: members) distinct.2 (List.cons_ne_nil _ _) containers []
          distinct.1 mayOpen rest
      rw [tokens_object_append, run_beginObject, run_keyOrEnd]
      rw [ite_congr rfl read fun _ => rfl, ← ite_and, nesting]
      exact if_congr (by omega) rfl rfl

theorem run_itemTokens : ∀ items : List Json, ItemKeysDistinct items → items ≠ [] →
    ∀ (outer : List Container) (done : List Json), outer.length < limit → ∀ rest,
    run (some limit) ⟨.array done :: outer, .value⟩ (itemTokens items ++ .endArray :: rest) =
      if outer.length + 1 + itemNesting items ≤ limit then
        run (some limit) (complete outer (.array (done.reverse ++ items))) rest
      else none
  | [], _, nonempty, _, _, _, _ => absurd rfl nonempty
  | [item], distinct, _, outer, done, within, rest => by
      rw [itemTokens_cons_append, run_tokens item distinct.1 (.array done :: outer) within,
        itemNesting, itemNesting, Nat.max_zero, ← List.reverse_cons]
      rfl
  | item :: next :: items, distinct, _, outer, done, within, rest => by
      have readRest := run_itemTokens (next :: items) distinct.2 (List.cons_ne_nil _ _) outer
        (item :: done) within rest
      rw [List.reverse_cons, List.append_assoc, List.singleton_append] at readRest
      rw [itemTokens_cons_append, run_tokens item distinct.1 (.array done :: outer) within]
      rw [itemNesting]
      show (if _ then run _ ⟨.array (item :: done) :: outer, .value⟩ _ else none) = _
      rw [readRest, ← ite_and]
      exact if_congr (by rw [List.length_cons]; omega) rfl rfl

theorem run_memberTokens : ∀ members : List (String × Json), MemberKeysDistinct members →
    members ≠ [] → ∀ (outer : List Container) (done : List (String × Json)),
    ((done ++ members).map Prod.fst).Nodup → outer.length < limit → ∀ rest,
    run (some limit) ⟨outer, .key done⟩ (memberTokens members ++ .endObject :: rest) =
      if outer.length + 1 + memberNesting members ≤ limit then
        run (some limit) (complete outer (.object (done ++ members))) rest
      else none
  | [], _, nonempty, _, _, _, _, _ => absurd rfl nonempty
  | [(key, value)], distinct, _, outer, done, nodup, within, rest => by
      rw [memberTokens_cons_append, run_key,
        run_tokens value distinct.1 (.object done key :: outer) within, complete,
        put_of_fresh (fresh_of_nodup nodup), memberNesting, memberNesting, Nat.max_zero]
      rfl
  | (key, value) :: next :: members, distinct, _, outer, done, nodup, within, rest => by
      have readRest := run_memberTokens (next :: members) distinct.2 (List.cons_ne_nil _ _) outer
        (done ++ [(key, value)]) (by rwa [List.append_assoc]) within rest
      rw [List.append_assoc, List.singleton_append] at readRest
      rw [memberTokens_cons_append, run_key,
        run_tokens value distinct.1 (.object done key :: outer) within, complete,
        put_of_fresh (fresh_of_nodup nodup)]
      rw [memberNesting]
      show (if _ then run _ ⟨outer, .key (done ++ [(key, value)])⟩ _ else none) = _
      rw [readRest, ← ite_and]
      exact if_congr (by rw [List.length_cons]; omega) rfl rfl

end

/-- The tokens of a value give the value back exactly if it nests within the limit. -/
theorem ofTokens?_tokens {value : Json} (distinct : value.KeysDistinct) :
    ofTokens? (some limit) value.tokens = if value.nesting ≤ limit then some value else none := by
  have read := run_tokens limit value distinct [] (Nat.zero_le limit) []
  rw [List.append_nil, List.length_nil, Nat.zero_add] at read
  unfold ofTokens?
  rw [read]
  split <;> rfl

end SyntaxQuery.Json
