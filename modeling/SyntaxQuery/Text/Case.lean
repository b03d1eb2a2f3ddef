import SyntaxQuery.Text.CaseTable

/-!
Contract: lower-casing of texts and case folding of characters, for every script.

Owns: the full lower-case mapping, the rule for a capital sigma at the end of a word, and the set
of characters that agree with a given one up to case.
Does not own: the tables.
-/

namespace SyntaxQuery.Text

/-- A code point lies in one of the inclusive ranges. -/
def inRanges (ranges : List (Nat × Nat)) (code : Nat) : Bool :=
  ranges.any fun range => range.1 ≤ code && code ≤ range.2

namespace CaseRun

/-- The code points that a run moves. -/
def moves (run : CaseRun) (code : Nat) : Bool :=
  run.first ≤ code && code ≤ run.last && (code - run.first) % run.step == 0

/-- The code point that a run sends `code` to. -/
def apply (run : CaseRun) (code : Nat) : Nat :=
  (Int.ofNat code + run.offset).toNat

/-- The code point that a run would send to `code`. -/
def unapply (run : CaseRun) (code : Nat) : Nat :=
  (Int.ofNat code - run.offset).toNat

end CaseRun

/-- A code point under a case map: moved by the run that holds it, else left alone. -/
def mapCode (runs : List CaseRun) (code : Nat) : Nat :=
  match runs.find? (CaseRun.moves · code) with
  | some run => run.apply code
  | none => code

/-- The lower-case form of a single character, two characters long for U+0130 alone. -/
def lowerChar (character : Char) : List Char :=
  let code := character.toNat
  if code < 0x80 then
    if 0x41 ≤ code ∧ code ≤ 0x5A then [Char.ofNat (code + 32)] else [character]
  else if code = 0x130 then ['i', Char.ofNat 0x307]
  else [Char.ofNat (mapCode CaseTable.lower code)]

/-- Among the characters on one side of a sigma, nearest first, the first that is not ignored
for casing is a cased one. -/
def meetsCased : List Char → Bool
  | [] => false
  | character :: rest =>
      if inRanges CaseTable.ignorable character.toNat then meetsCased rest
      else inRanges CaseTable.cased character.toNat

/-- Lower-cases the characters after `before`, which holds those already passed, nearest first.
A capital sigma that ends a word becomes a final sigma. -/
def lowerAfter : List Char → List Char → List Char
  | _, [] => []
  | before, character :: rest =>
      let image :=
        if character = 'Σ' then
          if meetsCased before && !meetsCased rest then ['ς'] else ['σ']
        else lowerChar character
      image ++ lowerAfter (character :: before) rest

def lowercase (text : String) : String :=
  String.ofList (lowerAfter [] text.toList)

/-- The representative of a character under simple case folding. -/
def foldCode (code : Nat) : Nat :=
  mapCode CaseTable.folding code

/-- Every code point that agrees with `code` up to case, `code` among them. -/
def caseOrbit (code : Nat) : List Nat :=
  let representative := foldCode code
  let sources := CaseTable.folding.filterMap fun run =>
    let source := run.unapply representative
    if run.moves source && run.apply source == representative then some source else none
  representative :: sources

end SyntaxQuery.Text
