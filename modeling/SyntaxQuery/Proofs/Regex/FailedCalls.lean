import Mathlib.Data.List.Induction
import Mathlib.Data.List.Nodup
import SyntaxQuery.Expression.Reader
import SyntaxQuery.Proofs.Regex.CacheContents

/-!
Contract: what a call that fails leaves of the store of compiled patterns.

Room is made before the options are read and the pattern is compiled. So a failed call has the
effect of making room, and no other: it empties a store at its capacity and leaves any smaller one
as it was (`entries_after_failed_call`). Calls for distinct patterns that compile bring the store to
its capacity (`keys_after_distinct`), from where a failed call takes all of them away.

Does not own: which calls fail.
-/

namespace SyntaxQuery.RegexCache

variable {build : Regex.Builder}

/-- A failed call makes room, and nothing else. -/
theorem get_of_answer_error {cache : RegexCache} {source options : String} {fault : Regex.Fault}
    (fails : cache.answer build source options = .error fault) :
    (cache.get build source options).2 = cache.makeRoom := by
  unfold answer at fails
  rcases cache.get_cases build source options with ⟨regex, _, isResult⟩ |
    ⟨regex, _, _, isResult⟩ | ⟨fault, _, _, isResult⟩
  · rw [isResult] at fails
    cases fails
  · rw [isResult] at fails
    cases fails
  · rw [isResult]

/-- With any library and after any calls, a call that fails leaves the store as it was if that is
not at its capacity, and empties it otherwise. -/
theorem entries_after_failed_call (build : Regex.Builder) (calls : List Call)
    (source options : String) (fault : Regex.Fault)
    (fails : (after build calls).answer build source options = .error fault) :
    ((after build calls).size < 256 ∧
        ((after build calls).get build source options).2 = after build calls) ∨
      ((after build calls).size = 256 ∧
        ((after build calls).get build source options).2 = empty) := by
  rw [get_of_answer_error fails]
  rcases Nat.lt_or_eq_of_le (wellKept_after build calls).size_le with notFull | isFull
  · exact .inl ⟨notFull, makeRoom_of_not_full notFull⟩
  · exact .inr ⟨isFull, makeRoom_of_full (Nat.le_of_eq isFull.symm)⟩

/-- A pattern that is kept stays when another one turns out malformed. -/
theorem kept_past_malformed :
    (after Expression.build [.get "a" "i"]).answer Expression.build "(" "" =
        .error (.refused Expression.malformedMessage) ∧
      ((after Expression.build [.get "a" "i"]).get Expression.build "(" "").2 =
        after Expression.build [.get "a" "i"] := by
  have fails : (after Expression.build [.get "a" "i"]).answer Expression.build "(" "" =
      .error (.refused Expression.malformedMessage) := rfl
  rcases entries_after_failed_call Expression.build [.get "a" "i"] "(" "" _ fails with
    ⟨_, unchanged⟩ | ⟨isFull, _⟩
  · exact ⟨fails, unchanged⟩
  · exact absurd isFull (by decide)

/-! ## Full stores -/

theorem after_concat (calls : List Call) (call : Call) :
    after build (calls ++ [call]) = (after build calls).apply build call := by
  rw [after, List.foldl_append]
  rfl

theorem find?_of_not_mem_keys {cache : RegexCache} {wanted : String}
    (absent : wanted ∉ cache.entries.map Prod.fst) : cache.find? wanted = none := by
  rw [find?, List.lookup_eq_none_iff]
  intro entry isEntry
  have differs : wanted ≠ entry.1 := fun same => absent (same ▸ List.mem_map_of_mem isEntry)
  simpa using differs

/-- A call for a pattern that compiles and is not found keeps it in front of the others, if the
store is not full. -/
theorem get_of_fresh {cache : RegexCache} {source options : String} {regex : Regex}
    (notFull : cache.size < capacity) (missing : cache.find? (key source options) = none)
    (compiled : Regex.compile build source options = .ok regex) :
    (cache.get build source options).2 = cache.insert (key source options) regex := by
  simp only [RegexCache.get, missing, compiled, makeRoom_of_not_full notFull]

/-- The key of a request, which is a source with options. -/
def requestKey (request : String × String) : String :=
  key request.1 request.2

/-- The call for a request. -/
def requestCall (request : String × String) : Call :=
  .get request.1 request.2

/-- Of distinct patterns that compile, no more than the capacity, all are kept, the last in front. -/
theorem keys_after_distinct (requests : List (String × String))
    (distinct : (requests.map requestKey).Nodup)
    (compile : ∀ request ∈ requests, ∃ regex, Regex.compile build request.1 request.2 = .ok regex)
    (few : requests.length ≤ capacity) :
    (after build (requests.map requestCall)).entries.map Prod.fst =
      (requests.map requestKey).reverse := by
  induction requests using List.reverseRecOn with
  | nil => rfl
  | append_singleton earlier request inductionHypothesis =>
      rw [List.map_append, List.map_singleton, List.nodup_append] at distinct
      obtain ⟨earlierDistinct, _, apart⟩ := distinct
      rw [List.length_append, List.length_singleton] at few
      have keys := inductionHypothesis earlierDistinct
        (fun other member => compile other (List.mem_append_left _ member)) (by omega)
      have notFull : (after build (earlier.map requestCall)).size < capacity := by
        have lengths := congrArg List.length keys
        rw [List.length_map, List.length_reverse, List.length_map] at lengths
        rw [size, lengths]
        omega
      have missing : (after build (earlier.map requestCall)).find? (requestKey request) = none := by
        apply find?_of_not_mem_keys
        rw [keys, List.mem_reverse]
        exact fun member => apart _ member _ List.mem_cons_self rfl
      obtain ⟨regex, compiled⟩ :=
        compile request (List.mem_append_right _ List.mem_cons_self)
      rw [List.map_append, List.map_singleton, after_concat, requestCall, apply,
        get_of_fresh notFull missing compiled, insert, List.map_cons, keys, List.map_append,
        List.map_singleton, List.reverse_append, List.reverse_singleton]
      rfl

/-- The options that ask for repeated search so many times over. They have no effect on a test. -/
def repeatedSearch (count : Nat) : String :=
  String.ofList (List.replicate count 'g')

theorem readOptions_repeatedSearch (options : Regex.Options) (count : Nat) :
    Regex.readOptions options (List.replicate count 'g') = .ok options := by
  induction count with
  | zero => rfl
  | succ count inductionHypothesis => exact inductionHypothesis

theorem compile_repeatedSearch (source : String) (count : Nat) :
    Regex.compile build source (repeatedSearch count) = Regex.compile build source "" := by
  unfold Regex.compile repeatedSearch
  rw [String.toList_ofList, readOptions_repeatedSearch]
  rfl

/-- The empty pattern under options of every length below a bound. -/
def emptyPatterns (count : Nat) : List (String × String) :=
  (List.range count).map fun length => ("", repeatedSearch length)

theorem nodup_keys_emptyPatterns (count : Nat) :
    ((emptyPatterns count).map requestKey).Nodup := by
  rw [emptyPatterns, List.map_map]
  refine List.Nodup.map ?_ List.nodup_range
  intro length other same
  have sameLength := congrArg (fun text => text.toList.length) same
  simpa [requestKey, toList_key, repeatedSearch] using sameLength

theorem compile_emptyPatterns {count : Nat} {request : String × String}
    (member : request ∈ emptyPatterns count) :
    ∃ regex, Regex.compile Expression.build request.1 request.2 = .ok regex := by
  obtain ⟨length, _, rfl⟩ := List.mem_map.mp member
  rw [compile_repeatedSearch]
  exact ⟨_, rfl⟩

/-- Calls that fill an empty store. -/
def fillingCalls : List Call :=
  (emptyPatterns capacity).map requestCall

theorem size_after_fillingCalls : (after Expression.build fillingCalls).size = capacity := by
  have length : (emptyPatterns capacity).length = capacity := by
    rw [emptyPatterns, List.length_map, List.length_range]
  have keys := keys_after_distinct (emptyPatterns capacity) (nodup_keys_emptyPatterns capacity)
    (fun _ => compile_emptyPatterns) (Nat.le_of_eq length)
  have lengths := congrArg List.length keys
  rwa [List.length_map, List.length_reverse, List.length_map, length] at lengths

/-- A full store does not keep its entries when a pattern turns out malformed. -/
theorem full_store_emptied_by_malformed :
    (after Expression.build fillingCalls).size = 256 ∧
      (after Expression.build fillingCalls).answer Expression.build "(" "" =
        .error (.refused Expression.malformedMessage) ∧
      ((after Expression.build fillingCalls).get Expression.build "(" "").2.size = 0 := by
  have isFull : (after Expression.build fillingCalls).size = 256 := size_after_fillingCalls
  have fails : (after Expression.build fillingCalls).answer Expression.build "(" "" =
      .error (.refused Expression.malformedMessage) := by
    have sound := sound_after Expression.build fillingCalls
    rw [(sound.answer_eq_iff "(" "").mpr fun clash => absurd clash.1 (by decide)]
    rfl
  refine ⟨isFull, fails, ?_⟩
  rw [get_of_answer_error fails, makeRoom_of_full (Nat.le_of_eq isFull.symm)]
  rfl

end SyntaxQuery.RegexCache
