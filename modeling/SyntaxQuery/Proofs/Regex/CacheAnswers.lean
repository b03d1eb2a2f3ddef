import SyntaxQuery.Regex.Cache

/-!
Contract: what the store of compiled patterns answers, after any calls.

The invariant is that every entry was compiled from a source and options whose key it has
(`RegexCache.Sound`). Accepted options have no slash, so among them the key tells source and options
apart; options with a slash are never accepted, but their key may be that of other options and of a
longer source. Hence the exact condition for an answer that is not that of a compilation.

Does not own: when patterns are asked for.
-/

namespace SyntaxQuery

/-! ## Options and keys -/

variable {build : Regex.Builder}

/-- The letters that are options of a pattern. -/
def optionLetters : List Char :=
  ['i', 'm', 's', 'g', 'u', 'y']

theorem mem_optionLetters_of_readOptions {options accepted : Regex.Options} {letters : List Char}
    (found : Regex.readOptions options letters = .ok accepted) :
    ∀ letter ∈ letters, letter ∈ optionLetters := by
  induction options, letters using Regex.readOptions.induct with
  | case1 options => exact fun letter member => nomatch member
  | case2 options rest inductionHypothesis =>
      exact List.forall_mem_cons.mpr ⟨by decide, inductionHypothesis found⟩
  | case3 options rest inductionHypothesis =>
      exact List.forall_mem_cons.mpr ⟨by decide, inductionHypothesis found⟩
  | case4 options rest inductionHypothesis =>
      exact List.forall_mem_cons.mpr ⟨by decide, inductionHypothesis found⟩
  | case5 options other rest notIgnoreCase notMultiLine notDotAll ignored inductionHypothesis =>
      rw [Regex.readOptions, if_pos ignored] at found
      · refine List.forall_mem_cons.mpr ⟨?_, inductionHypothesis found⟩
        rcases ignored with rfl | rfl | rfl <;> decide
      all_goals assumption
  | case6 options other rest notIgnoreCase notMultiLine notDotAll unknown =>
      rw [Regex.readOptions, if_neg unknown] at found
      · cases found
      all_goals assumption

theorem mem_optionLetters_of_compile {source options : String} {regex : Regex}
    (compiled : Regex.compile build source options = .ok regex) :
    ∀ letter ∈ options.toList, letter ∈ optionLetters := by
  unfold Regex.compile at compiled
  split at compiled
  · cases compiled
  · next accepted found => exact mem_optionLetters_of_readOptions found

theorem slash_not_mem_of_optionLetters {letters : List Char}
    (areOptions : ∀ letter ∈ letters, letter ∈ optionLetters) : '/' ∉ letters :=
  fun member => absurd (areOptions '/' member) (by decide)

/-- The options of a pattern that compiles have no slash. -/
theorem slash_not_mem_of_compile {source options : String} {regex : Regex}
    (compiled : Regex.compile build source options = .ok regex) : '/' ∉ options.toList :=
  slash_not_mem_of_optionLetters (mem_optionLetters_of_compile compiled)

/-- What precedes the first separator determines the rest. -/
theorem append_cons_inj_of_not_mem {α : Type} {separator : α} {before after other rest : List α}
    (first : separator ∉ before) (otherFirst : separator ∉ other)
    (same : before ++ separator :: after = other ++ separator :: rest) :
    before = other ∧ after = rest := by
  induction before generalizing other with
  | nil =>
      cases other with
      | nil => exact ⟨rfl, (List.cons.inj same).2⟩
      | cons head tail =>
          exact absurd (List.mem_cons.mpr (.inl (List.cons.inj same).1)) otherFirst
  | cons head tail inductionHypothesis =>
      cases other with
      | nil => exact absurd (List.mem_cons.mpr (.inl (List.cons.inj same).1.symm)) first
      | cons otherHead otherTail =>
          obtain ⟨rfl, sameRest⟩ := List.cons.inj same
          obtain ⟨rfl, rfl⟩ := inductionHypothesis (List.not_mem_of_not_mem_cons first)
            (List.not_mem_of_not_mem_cons otherFirst) sameRest
          exact ⟨rfl, rfl⟩

namespace RegexCache

theorem toList_key (source options : String) :
    (key source options).toList = options.toList ++ '/' :: source.toList := by
  simp [key]

/-- The key tells apart what has no slash in its options. -/
theorem eq_of_key_eq {source options otherSource otherOptions : String}
    (slashFree : '/' ∉ options.toList) (otherSlashFree : '/' ∉ otherOptions.toList)
    (same : key source options = key otherSource otherOptions) :
    source = otherSource ∧ options = otherOptions := by
  have sameText := congrArg String.toList same
  rw [toList_key, toList_key] at sameText
  obtain ⟨sameOptions, sameSource⟩ :=
    append_cons_inj_of_not_mem slashFree otherSlashFree sameText
  exact ⟨String.toList_inj.mp sameSource, String.toList_inj.mp sameOptions⟩

/-! ## Calls -/

/-- A use of the store. -/
inductive Call where
  | get (source options : String)
  | clear

def apply (build : Regex.Builder) (cache : RegexCache) : Call → RegexCache
  | .get source options => (cache.get build source options).2
  | .clear => empty

/-- The store after some uses of an empty one with a library. -/
def after (build : Regex.Builder) (calls : List Call) : RegexCache :=
  calls.foldl (apply build) empty

/-- The answer for a source and options. -/
def answer (cache : RegexCache) (build : Regex.Builder) (source options : String) :
    Except Regex.Fault Regex :=
  (cache.get build source options).1

/-- Every entry was compiled from a source and options whose key it has. -/
def Sound (build : Regex.Builder) (cache : RegexCache) : Prop :=
  ∀ entry ∈ cache.entries, ∃ source options, entry.1 = key source options ∧
    Regex.compile build source options = .ok entry.2

theorem sound_empty : empty.Sound build := by
  intro entry member
  cases member

theorem Sound.makeRoom {cache : RegexCache} (sound : cache.Sound build) :
    cache.makeRoom.Sound build := by
  unfold RegexCache.makeRoom
  split
  · exact sound_empty
  · exact sound

theorem Sound.insert {cache : RegexCache} (sound : cache.Sound build) {source options : String}
    {regex : Regex} (compiled : Regex.compile build source options = .ok regex) :
    (cache.insert (key source options) regex).Sound build := by
  intro entry member
  rcases List.mem_cons.mp member with same | older
  · rw [same]
    exact ⟨source, options, rfl, compiled⟩
  · exact sound entry older

theorem get_of_find? {cache : RegexCache} {source options : String} {regex : Regex}
    (found : cache.find? (key source options) = some regex) :
    cache.get build source options = (.ok regex, cache) := by
  simp only [RegexCache.get, found]

theorem answer_of_not_found {cache : RegexCache} {source options : String}
    (missing : cache.find? (key source options) = none) :
    cache.answer build source options = Regex.compile build source options := by
  simp only [answer, RegexCache.get, missing]
  cases Regex.compile build source options <;> rfl

/-- What a call for a pattern can do: find its key, compile it and keep it, or fail to compile it.
Room is made whenever the key is not found. -/
theorem get_cases (cache : RegexCache) (build : Regex.Builder) (source options : String) :
    (∃ regex, cache.find? (key source options) = some regex ∧
      cache.get build source options = (.ok regex, cache)) ∨
    (∃ regex, cache.find? (key source options) = none ∧
      Regex.compile build source options = .ok regex ∧
      cache.get build source options =
        (.ok regex, cache.makeRoom.insert (key source options) regex)) ∨
    (∃ fault, cache.find? (key source options) = none ∧
      Regex.compile build source options = .error fault ∧
      cache.get build source options = (.error fault, cache.makeRoom)) := by
  cases found : cache.find? (key source options) with
  | some regex => exact .inl ⟨regex, rfl, get_of_find? found⟩
  | none =>
      cases compiled : Regex.compile build source options with
      | ok regex =>
          refine .inr (.inl ⟨regex, rfl, rfl, ?_⟩)
          simp only [RegexCache.get, found, compiled]
      | error fault =>
          refine .inr (.inr ⟨fault, rfl, rfl, ?_⟩)
          simp only [RegexCache.get, found, compiled]

/-- A look-up keeps the entries sound, whatever it asks for. -/
theorem Sound.get {cache : RegexCache} (sound : cache.Sound build) (source options : String) :
    (cache.get build source options).2.Sound build := by
  rcases cache.get_cases build source options with ⟨regex, _, isResult⟩ |
    ⟨regex, _, compiled, isResult⟩ | ⟨fault, _, _, isResult⟩
  · rw [isResult]
    exact sound
  · rw [isResult]
    exact sound.makeRoom.insert compiled
  · rw [isResult]
    exact sound.makeRoom

/-- What holds of an empty store and is kept by looking up patterns holds after any calls. -/
theorem holds_after {holds : RegexCache → Prop} (initial : holds empty)
    (step : ∀ cache source options, holds cache → holds (cache.get build source options).2)
    (calls : List Call) : holds (after build calls) := by
  have run (cache : RegexCache) (before : holds cache) :
      holds (calls.foldl (apply build) cache) := by
    induction calls generalizing cache with
    | nil => exact before
    | cons call rest inductionHypothesis =>
        refine inductionHypothesis _ ?_
        cases call with
        | get source options => exact step cache source options before
        | clear => exact initial
  exact run empty initial

theorem sound_after (build : Regex.Builder) (calls : List Call) : (after build calls).Sound build :=
  holds_after sound_empty (fun _ source options sound => sound.get source options) calls

/-! ## Answers -/

/-- What a sound store holds under a key, as a compilation under options without a slash. -/
theorem Sound.exists_of_find? {cache : RegexCache} (sound : cache.Sound build) {wanted : String}
    {regex : Regex} (found : cache.find? wanted = some regex) :
    ∃ source options, wanted = key source options ∧ '/' ∉ options.toList ∧
      Regex.compile build source options = .ok regex := by
  obtain ⟨before, behind, split, _⟩ := List.lookup_eq_some_iff.mp found
  have member : (wanted, regex) ∈ cache.entries := by
    rw [split]
    exact List.mem_append_right _ List.mem_cons_self
  obtain ⟨source, options, isKey, compiled⟩ := sound _ member
  exact ⟨source, options, isKey, slash_not_mem_of_compile compiled, compiled⟩

/-- The options have a slash such that what precedes it are accepted options for what follows it,
taken together with the source: the key is then that of another pattern. -/
def Clashes (build : Regex.Builder) (source options : String) : Prop :=
  ∃ before behind regex, options = before ++ "/" ++ behind ∧
    Regex.compile build (key source behind) before = .ok regex

/-- What compiles has no slash in its options, so its key is that of no other pattern. -/
theorem not_clashes_of_compile {source options : String} {regex : Regex}
    (compiled : Regex.compile build source options = .ok regex) :
    ¬ Clashes build source options := by
  intro clash
  obtain ⟨before, behind, _, rfl, _⟩ := clash
  exact slash_not_mem_of_compile compiled (by simp)

/-- Options with a slash whose key is in a sound store split so that another pattern has it. -/
theorem Sound.clashes_of_find? {cache : RegexCache} (sound : cache.Sound build)
    {source options : String} {regex : Regex} (slash : '/' ∈ options.toList)
    (found : cache.find? (key source options) = some regex) : Clashes build source options := by
  obtain ⟨otherSource, otherOptions, sameKey, slashFree, compiled⟩ := sound.exists_of_find? found
  -- The options in the store have no slash, so they end where the first slash of the key stands.
  obtain ⟨before, behind, split, first⟩ := List.eq_append_cons_of_mem slash
  have sameText := congrArg String.toList sameKey
  rw [toList_key, toList_key, split, List.append_assoc, List.cons_append] at sameText
  obtain ⟨sameOptions, sameSource⟩ := append_cons_inj_of_not_mem first slashFree sameText
  have isOptions : String.ofList before = otherOptions := by
    apply String.toList_inj.mp
    rw [String.toList_ofList, sameOptions]
  have isSource : key source (String.ofList behind) = otherSource := by
    apply String.toList_inj.mp
    rw [toList_key, String.toList_ofList, sameSource]
  refine ⟨String.ofList before, String.ofList behind, regex, ?_, ?_⟩
  · apply String.toList_inj.mp
    rw [split]
    simp
  · rw [isOptions, isSource, compiled]

theorem answer_empty (source options : String) :
    empty.answer build source options = Regex.compile build source options :=
  answer_of_not_found rfl

/-- The exact condition for an answer like that of an empty store: options with a slash must not
find the entry of another pattern. -/
theorem Sound.answer_eq_iff {cache : RegexCache} (sound : cache.Sound build)
    (source options : String) :
    cache.answer build source options = empty.answer build source options ↔
      ¬ ('/' ∈ options.toList ∧ (cache.find? (key source options)).isSome) := by
  rw [answer_empty]
  cases found : cache.find? (key source options) with
  | none => simp [answer_of_not_found found]
  | some regex =>
      rw [answer, get_of_find? found]
      constructor
      · rintro same ⟨slash, -⟩
        exact slash_not_mem_of_compile same.symm slash
      · intro noClash
        have slashFree : '/' ∉ options.toList := fun slash => noClash ⟨slash, rfl⟩
        obtain ⟨otherSource, otherOptions, sameKey, otherSlashFree, compiled⟩ :=
          sound.exists_of_find? found
        obtain ⟨rfl, rfl⟩ := eq_of_key_eq slashFree otherSlashFree sameKey
        exact compiled.symm

/-- A pattern that does not clash is answered by its compilation. -/
theorem Sound.answer_eq_compile {cache : RegexCache} (sound : cache.Sound build)
    {source options : String} (unclashing : ¬ Clashes build source options) :
    cache.answer build source options = Regex.compile build source options := by
  rw [← answer_empty, sound.answer_eq_iff]
  intro clash
  obtain ⟨slash, found⟩ := clash
  obtain ⟨regex, held⟩ := Option.isSome_iff_exists.mp found
  exact unclashing (sound.clashes_of_find? slash held)

/-- Some calls lead to another answer exactly for the patterns that clash. -/
theorem exists_answer_ne_iff (source options : String) :
    (∃ calls, (after build calls).answer build source options ≠ empty.answer build source options) ↔
      Clashes build source options := by
  constructor
  · intro reached
    obtain ⟨calls, differs⟩ := reached
    refine Classical.byContradiction fun unclashing => ?_
    rw [answer_empty] at differs
    exact differs ((sound_after build calls).answer_eq_compile unclashing)
  · intro clash
    obtain ⟨before, behind, regex, rfl, compiled⟩ := clash
    refine ⟨[.get (key source behind) before], ?_⟩
    have sameKey : key (key source behind) before = key source (before ++ "/" ++ behind) := by
      simp only [key, String.append_assoc]
    have held : (after build [.get (key source behind) before]).find?
        (key source (before ++ "/" ++ behind)) = some regex := by
      rw [← sameKey]
      simp [after, apply, RegexCache.get, compiled, find?, empty, RegexCache.insert, makeRoom,
        size, capacity]
    rw [ne_eq, (sound_after build _).answer_eq_iff, Decidable.not_not, held]
    exact ⟨by simp, rfl⟩

end RegexCache

end SyntaxQuery
