import SyntaxQuery.Regex.Basic

/-!
Contract: a bounded store of compiled patterns.

Owns: the key under which a compiled pattern is kept, the order of look-up, eviction, compilation
and insertion, and the size of the store.
Does not own: compilation.
-/

namespace SyntaxQuery

/-- Compiled patterns by key, the newest first. -/
structure RegexCache where
  entries : List (String × Regex)

namespace RegexCache

/-- How many patterns are kept at most. -/
def capacity : Nat := 256

def empty : RegexCache := ⟨[]⟩

def size (cache : RegexCache) : Nat :=
  cache.entries.length

/-- The key of a pattern and its options. -/
def key (source options : String) : String :=
  options ++ "/" ++ source

/-- The compiled pattern under a key. -/
def find? (cache : RegexCache) (wanted : String) : Option Regex :=
  cache.entries.lookup wanted

/-- The cache as a compilation finds it: emptied when it is full. -/
def makeRoom (cache : RegexCache) : RegexCache :=
  if capacity ≤ cache.size then empty else cache

def insert (cache : RegexCache) (wanted : String) (regex : Regex) : RegexCache :=
  ⟨(wanted, regex) :: cache.entries⟩

/-- The compiled pattern for a source and options, from the cache when it holds their key. Otherwise
room is made, and the pattern is compiled and kept; one that does not compile is not kept. -/
def get (cache : RegexCache) (build : Regex.Builder) (source options : String) :
    Except Regex.Fault Regex × RegexCache :=
  let wanted := key source options
  match cache.find? wanted with
  | some regex => (.ok regex, cache)
  | none =>
      let cache := cache.makeRoom
      match Regex.compile build source options with
      | .ok regex => (.ok regex, cache.insert wanted regex)
      | .error fault => (.error fault, cache)

end RegexCache

end SyntaxQuery
