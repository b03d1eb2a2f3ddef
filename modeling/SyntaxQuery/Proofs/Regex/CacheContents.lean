import SyntaxQuery.Expression.Reader
import SyntaxQuery.Proofs.Regex.CacheAnswers

/-!
Contract: what the store of compiled patterns holds, after any calls.

The invariant is that the store is no larger than its capacity, that no key occurs twice, and that
every entry was compiled under its key (`RegexCache.WellKept`). A call keeps it because room is made
before anything is inserted, and only a key that was not found is inserted. Options are letters, so
a key is that of a single source and options.

Does not own: what a call answers.
-/

namespace SyntaxQuery.RegexCache

/-- What holds of the store between calls. -/
structure WellKept (build : Regex.Builder) (cache : RegexCache) : Prop where
  size_le : cache.size ≤ capacity
  nodup_keys : (cache.entries.map Prod.fst).Nodup
  sound : cache.Sound build

variable {build : Regex.Builder}

theorem wellKept_empty : empty.WellKept build where
  size_le := Nat.zero_le _
  nodup_keys := List.nodup_nil
  sound := sound_empty

theorem size_insert (cache : RegexCache) (wanted : String) (regex : Regex) :
    (cache.insert wanted regex).size = cache.size + 1 :=
  List.length_cons

theorem find?_insert_self (cache : RegexCache) (wanted : String) (regex : Regex) :
    (cache.insert wanted regex).find? wanted = some regex :=
  List.lookup_cons_self

theorem makeRoom_of_full {cache : RegexCache} (isFull : capacity ≤ cache.size) :
    cache.makeRoom = empty :=
  if_pos isFull

theorem makeRoom_of_not_full {cache : RegexCache} (notFull : cache.size < capacity) :
    cache.makeRoom = cache :=
  if_neg (Nat.not_le.mpr notFull)

/-- Where room is made there is room. -/
theorem size_makeRoom_lt (cache : RegexCache) : cache.makeRoom.size < capacity := by
  rcases Nat.lt_or_ge cache.size capacity with notFull | isFull
  · rw [makeRoom_of_not_full notFull]
    exact notFull
  · rw [makeRoom_of_full isFull]
    decide

/-- A key that is not found before room is made is not found afterwards. -/
theorem find?_makeRoom {cache : RegexCache} {wanted : String}
    (missing : cache.find? wanted = none) : cache.makeRoom.find? wanted = none := by
  unfold makeRoom
  split
  · rfl
  · exact missing

theorem not_mem_keys_of_find? {cache : RegexCache} {wanted : String}
    (missing : cache.find? wanted = none) : wanted ∉ cache.entries.map Prod.fst := by
  intro member
  obtain ⟨entry, isEntry, rfl⟩ := List.mem_map.mp member
  exact absurd (List.lookup_eq_none_iff.mp missing entry isEntry) (by simp)

namespace WellKept

variable {cache : RegexCache}

theorem makeRoom (wellKept : cache.WellKept build) : cache.makeRoom.WellKept build := by
  unfold RegexCache.makeRoom
  split
  · exact wellKept_empty
  · exact wellKept

theorem insert (wellKept : cache.WellKept build) {source options : String} {regex : Regex}
    (hasRoom : cache.size < capacity) (missing : cache.find? (key source options) = none)
    (compiled : Regex.compile build source options = .ok regex) :
    (cache.insert (key source options) regex).WellKept build where
  size_le := by
    rw [size_insert]
    exact hasRoom
  nodup_keys := List.nodup_cons.mpr ⟨not_mem_keys_of_find? missing, wellKept.nodup_keys⟩
  sound := wellKept.sound.insert compiled

theorem get (wellKept : cache.WellKept build) (source options : String) :
    (cache.get build source options).2.WellKept build := by
  rcases cache.get_cases build source options with ⟨regex, _, isResult⟩ |
    ⟨regex, missing, compiled, isResult⟩ | ⟨fault, _, _, isResult⟩
  · rw [isResult]
    exact wellKept
  · rw [isResult]
    exact wellKept.makeRoom.insert cache.size_makeRoom_lt (find?_makeRoom missing) compiled
  · rw [isResult]
    exact wellKept.makeRoom

end WellKept

theorem wellKept_after (build : Regex.Builder) (calls : List Call) :
    (after build calls).WellKept build :=
  holds_after wellKept_empty (fun _ source options wellKept => wellKept.get source options) calls

/-- The size after a successful call that did not find its key, by the size before. -/
theorem size_insert_makeRoom {cache : RegexCache} (small : cache.size ≤ capacity)
    (wanted : String) (regex : Regex) :
    (cache.makeRoom.insert wanted regex).size =
      if cache.size = capacity then 1 else cache.size + 1 := by
  rw [size_insert]
  split
  · next isFull =>
      rw [makeRoom_of_full (Nat.le_of_eq isFull.symm)]
      rfl
  · next notFull => rw [makeRoom_of_not_full (Nat.lt_of_le_of_ne small notFull)]

/-- The entry was compiled from a source under option letters, its key is theirs, and no other
source and option letters have that key. -/
def IsOfOnePattern (build : Regex.Builder) (entry : String × Regex) : Prop :=
  ∃ source options, (∀ letter ∈ options.toList, letter ∈ optionLetters) ∧
    entry.1 = key source options ∧ Regex.compile build source options = .ok entry.2 ∧
    ∀ otherSource otherOptions, (∀ letter ∈ otherOptions.toList, letter ∈ optionLetters) →
      entry.1 = key otherSource otherOptions → otherSource = source ∧ otherOptions = options

theorem Sound.isOfOnePattern {cache : RegexCache} (sound : cache.Sound build)
    {entry : String × Regex} (isEntry : entry ∈ cache.entries) : IsOfOnePattern build entry := by
  obtain ⟨source, options, isKey, compiled⟩ := sound entry isEntry
  refine ⟨source, options, mem_optionLetters_of_compile compiled, isKey, compiled, ?_⟩
  intro otherSource otherOptions areOptions isOtherKey
  exact eq_of_key_eq (slash_not_mem_of_optionLetters areOptions)
    (slash_not_mem_of_compile compiled) (isOtherKey.symm.trans isKey)

/-- With any library and after any calls the store has at most 256 entries with distinct keys, each
compiled under its key from the one source and option letters that have it. A call that finds its
key changes nothing. A successful call that does not find it leaves its entry in the store, which
has one entry more, but has this one only if it was full. -/
theorem contents_after_calls (build : Regex.Builder) (calls : List Call) :
    (after build calls).size ≤ 256 ∧ ((after build calls).entries.map Prod.fst).Nodup ∧
    (∀ entry ∈ (after build calls).entries, IsOfOnePattern build entry) ∧
    (∀ source options regex, (after build calls).find? (key source options) = some regex →
      ((after build calls).get build source options).2 = after build calls) ∧
    (∀ source options regex, (after build calls).find? (key source options) = none →
      ((after build calls).get build source options).1 = .ok regex →
      ((after build calls).get build source options).2.find? (key source options) = some regex ∧
      ((after build calls).get build source options).2.size =
        if (after build calls).size = 256 then 1 else (after build calls).size + 1) := by
  have wellKept := wellKept_after build calls
  refine ⟨wellKept.size_le, wellKept.nodup_keys, fun entry => wellKept.sound.isOfOnePattern, ?_, ?_⟩
  · intro source options regex found
    rw [get_of_find? found]
  · intro source options regex missing succeeds
    rcases (after build calls).get_cases build source options with ⟨other, found, _⟩ |
      ⟨other, _, _, isResult⟩ | ⟨fault, _, _, isResult⟩
    · rw [found] at missing
      cases missing
    · rw [isResult] at succeeds ⊢
      cases succeeds
      exact ⟨find?_insert_self _ _ _, size_insert_makeRoom wellKept.size_le _ _⟩
    · rw [isResult] at succeeds
      cases succeeds

/-- A pattern whose source reads like the key of another one is kept beside it. -/
theorem contents_after_lookalike : ∃ regex, Regex.compile Expression.build "i/b" "" = .ok regex ∧
    ((after Expression.build [.get "b" "i"]).get Expression.build "i/b" "").2.find?
      (key "i/b" "") = some regex ∧
    ((after Expression.build [.get "b" "i"]).get Expression.build "i/b" "").2.size = 2 := by
  obtain ⟨regex, compiled⟩ : ∃ regex, Regex.compile Expression.build "i/b" "" = .ok regex :=
    ⟨_, rfl⟩
  have missing : (after Expression.build [.get "b" "i"]).find? (key "i/b" "") = none := rfl
  have succeeds : ((after Expression.build [.get "b" "i"]).get Expression.build "i/b" "").1 =
      .ok regex := by
    rw [← compiled]
    exact answer_of_not_found missing
  exact ⟨regex, compiled,
    (contents_after_calls Expression.build [.get "b" "i"]).2.2.2.2 _ _ _ missing succeeds⟩

end SyntaxQuery.RegexCache
