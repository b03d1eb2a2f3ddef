import SyntaxQuery.Proofs.Json.Assembling
import SyntaxQuery.Proofs.Json.Numbers

/-!
Contract: reading the compact text of a value.

A value with distinct keys whose numbers are read back from their texts is read back itself, exactly
if it nests within the limit (`parse?_compact`).

Does not own: indented text.
-/

namespace SyntaxQuery.Json

/-- Every number in the value is read back from its text. -/
def NumbersReadBack (value : Json) : Prop :=
  ∀ number ∈ value.numbers, number.ReadsBack

mutual

theorem readsUpTo_tokens : ∀ value : Json, (∀ number ∈ value.numbers, number.ReadsBack) →
    ReadsUpTo value.tokens
  | .null, _ => readsUpTo_null
  | .bool value, _ => readsUpTo_bool value
  | .number value, readBack => readsUpTo_number (readBack value List.mem_cons_self)
  | .string value, _ => (readsTo_string value).readsUpTo
  | .array items, readBack => by
      rw [tokens]
      have closed := (readsUpTo_itemTokens items readBack).delimit delimits_endArray
      exact (readsTo_beginArray.trans closed).readsUpTo
  | .object members, readBack => by
      rw [tokens]
      have closed := (readsUpTo_memberTokens members readBack).delimit delimits_endObject
      exact (readsTo_beginObject.trans closed).readsUpTo

theorem readsUpTo_itemTokens : ∀ items : List Json,
    (∀ number ∈ itemNumbers items, number.ReadsBack) → ReadsUpTo (itemTokens items)
  | [], _ => readsTo_nil.readsUpTo
  | [item], readBack => by
      rw [itemNumbers, List.forall_mem_append] at readBack
      exact readsUpTo_tokens item readBack.1
  | item :: next :: rest, readBack => by
      rw [itemNumbers, List.forall_mem_append] at readBack
      rw [itemTokens, List.append_cons]
      have first := (readsUpTo_tokens item readBack.1).delimit delimits_comma
      exact first.append (readsUpTo_itemTokens (next :: rest) readBack.2)

theorem readsUpTo_memberTokens : ∀ members : List (String × Json),
    (∀ number ∈ memberNumbers members, number.ReadsBack) → ReadsUpTo (memberTokens members)
  | [], _ => readsTo_nil.readsUpTo
  | [(key, value)], readBack => by
      rw [memberNumbers, List.forall_mem_append] at readBack
      exact (readsTo_key key).append (readsUpTo_tokens value readBack.1)
  | (key, value) :: next :: rest, readBack => by
      rw [memberNumbers, List.forall_mem_append] at readBack
      have first := (readsTo_key key).append (readsUpTo_tokens value readBack.1)
      have behind := readsUpTo_memberTokens (next :: rest) readBack.2
      have whole := (first.delimit delimits_comma).append behind
      rw [memberTokens]
      simpa using whole

end

theorem scan?_tokens {value : Json} (readBack : value.NumbersReadBack) :
    scan? (value.tokens.flatMap Token.text) = some value.tokens := by
  obtain ⟨scanner, ran, settled⟩ := readsUpTo_tokens value readBack []
  unfold scan?
  rw [ran]
  show (scanner.settle.bind fun tokens => some tokens.reverse) = _
  rw [settled, List.append_nil, Option.bind_some, List.reverse_reverse]

/-- The compact text of a value gives the value back if it nests within the limit, and is no text of
a value if it nests deeper. -/
theorem parse?_compact {value : Json} (distinct : value.KeysDistinct)
    (readBack : value.NumbersReadBack) :
    parse? value.compact = if value.nesting ≤ textNestingLimit then some value else none := by
  unfold parse? read? compact
  rw [String.toList_ofList, scan?_tokens readBack]
  exact ofTokens?_tokens textNestingLimit distinct

end SyntaxQuery.Json
