import Mathlib.Algebra.Ring.Nat
import SyntaxQuery.Command.Report

/-!
Contract: what a report says of each file, and of all files together.

Every file has a part of its own in the report, which its outcome alone decides and which is empty
for a file that failed. A tally over some files holds their parts in order and the totals
(`Tally.Covers`). Adding a file keeps that true, so it is true of the tally that a report is written
from (`report_reportsEach`).

Does not own: how the outcome of a file comes about.
-/

namespace SyntaxQuery

/-! ## The part of a file -/

namespace FileOutcome

/-- The number of nodes reported from a file, none from one that failed. -/
def hitCount (outcome : FileOutcome) : Nat :=
  match outcome.result with
  | .ok hits => hits.length
  | .error _ => 0

def failed (outcome : FileOutcome) : Bool :=
  match outcome.result with
  | .ok _ => false
  | .error _ => true

/-- The lines that a report in text has for a file: one for each node, or one with their number. -/
def lines (style : ReportStyle) (outcome : FileOutcome) : List String :=
  match outcome.result with
  | .ok hits =>
      if style.countOnly then [outcome.path ++ ": " ++ Nat.repr hits.length]
      else hits.map (Hit.text style.colored outcome.path)
  | .error _ => []

/-- The elements that a report in JSON has for a file: one for each node, or one with their
number. -/
def items (style : ReportStyle) (outcome : FileOutcome) : List Json :=
  match outcome.result with
  | .ok hits =>
      if style.countOnly then
        [.object [("file", .string outcome.path), ("count", .ofNat hits.length)]]
      else hits.map (Hit.json outcome.path)
  | .error _ => []

/-- The line on standard error for a file that failed. -/
def complaint? (style : ReportStyle) (outcome : FileOutcome) : Option String :=
  match outcome.result with
  | .ok _ => none
  | .error chain => some (Tally.complaintOf style outcome.path chain)

end FileOutcome

/-! ## The whole report -/

/-- The lines that end a report in text: the numbers of nodes and files, and the number of failures
if there is any. -/
def closingLines (style : ReportStyle) (matched files failures : Nat) : List String :=
  ["", Style.green.paint style.colored (Nat.repr matched) ++ " " ++
      (if matched = 1 then "match" else "matches") ++ " in " ++ Nat.repr files ++ " file(s)"] ++
    if 0 < failures then
      [Style.red.paint style.colored (Nat.repr failures) ++ " file(s) failed"]
    else []

/-- An output is the full report on the outcomes of some files. -/
structure ReportsEach (style : ReportStyle) (outcomes : List FileOutcome) (output : Output) :
    Prop where
  /-- A report in text has the lines of each file in turn, and then the totals. -/
  text : style.format = .text → output.standardOutput =
    terminated (outcomes.flatMap (FileOutcome.lines style) ++
      closingLines style (outcomes.map FileOutcome.hitCount).sum outcomes.length
        (outcomes.countP FileOutcome.failed))
  /-- A report in JSON is the array of the elements of each file in turn. -/
  json : style.format = .json → output.standardOutput =
    (Json.array (outcomes.flatMap (FileOutcome.items style))).pretty ++ "\n"
  complaints : output.standardError =
    terminated (outcomes.filterMap (FileOutcome.complaint? style))
  /-- The status tells whether some file failed. -/
  status : output.status = if ∃ outcome ∈ outcomes, outcome.failed = true then 1 else 0

namespace Tally

/-- A tally holds the parts of some files, last first, and the totals over them. -/
structure Covers (style : ReportStyle) (outcomes : List FileOutcome) (tally : Tally) : Prop where
  lines : style.format = .text → tally.lines.reverse = outcomes.flatMap (FileOutcome.lines style)
  items : style.format = .json → tally.items.reverse = outcomes.flatMap (FileOutcome.items style)
  complaints : tally.complaints.reverse = outcomes.filterMap (FileOutcome.complaint? style)
  files : tally.files = outcomes.length
  matched : tally.matched = (outcomes.map FileOutcome.hitCount).sum
  failed : tally.failed = outcomes.countP FileOutcome.failed

variable {style : ReportStyle} {seen : List FileOutcome} {tally : Tally}

theorem covers_empty (style : ReportStyle) : Covers style [] empty := by
  constructor <;> simp [empty]

theorem linesOf_of_text (isText : style.format = .text) (path : String) (hits : List Hit) :
    linesOf style path hits = FileOutcome.lines style ⟨path, .ok hits⟩ := by
  rw [linesOf, isText]
  rfl

theorem itemsOf_of_json (isJson : style.format = .json) (path : String) (hits : List Hit) :
    itemsOf style path hits = FileOutcome.items style ⟨path, .ok hits⟩ := by
  rw [itemsOf, isJson]
  rfl

/-- One more file adds its own part behind those of the files before. -/
theorem Covers.add (covers : Covers style seen tally) (outcome : FileOutcome) :
    Covers style (seen ++ [outcome]) (tally.add style outcome) := by
  obtain ⟨path, result⟩ := outcome
  constructor
  · intro isText
    cases result with
    | ok hits => simp [Tally.add, covers.lines isText, linesOf_of_text isText]
    | error chain => simp [Tally.add, covers.lines isText, FileOutcome.lines]
  · intro isJson
    cases result with
    | ok hits => simp [Tally.add, covers.items isJson, itemsOf_of_json isJson]
    | error chain => simp [Tally.add, covers.items isJson, FileOutcome.items]
  · cases result <;> simp [Tally.add, covers.complaints, FileOutcome.complaint?]
  · cases result <;> simp [Tally.add, covers.files]
  · cases result <;>
      simp [Tally.add, covers.matched, FileOutcome.hitCount]
  · cases result <;> simp [Tally.add, covers.failed, FileOutcome.failed]

theorem Covers.foldl (covers : Covers style seen tally) (outcomes : List FileOutcome) :
    Covers style (seen ++ outcomes) (outcomes.foldl (Tally.add style) tally) := by
  induction outcomes generalizing seen tally with
  | nil => rwa [List.append_nil]
  | cons outcome rest inductionHypothesis =>
      have next := inductionHypothesis (covers.add outcome)
      rwa [List.append_assoc] at next

theorem Covers.summary_eq (covers : Covers style seen tally) :
    tally.summary style =
      closingLines style (seen.map FileOutcome.hitCount).sum seen.length
        (seen.countP FileOutcome.failed) := by
  rw [summary, closingLines, ← covers.matched, ← covers.files, ← covers.failed]
  by_cases none : tally.failed = 0
  · simp [none]
  · simp [none, Nat.pos_of_ne_zero none]

/-- The output of a tally is the full report on the files that it covers. -/
theorem Covers.reportsEach (covers : Covers style seen tally) :
    ReportsEach style seen (tally.output style) where
  text isText := by
    simp only [output, isText, covers.lines isText, covers.summary_eq]
  json isJson := by
    simp only [output, isJson, covers.items isJson]
  complaints := by
    rw [output, covers.complaints]
  status := by
    rw [output, covers.failed]
    by_cases someFailed : ∃ outcome ∈ seen, outcome.failed = true
    · have positive : 0 < seen.countP FileOutcome.failed := List.countP_pos_iff.mpr someFailed
      rw [if_pos someFailed, if_neg (Nat.ne_of_gt positive)]
    · have zero : seen.countP FileOutcome.failed = 0 :=
        List.countP_eq_zero.mpr fun outcome isSeen hasFailed =>
          someFailed ⟨outcome, isSeen, hasFailed⟩
      rw [if_neg someFailed, if_pos zero]

end Tally

/-- A report on the outcomes of some files is the full one, whichever of them failed. -/
theorem report_reportsEach (style : ReportStyle) (outcomes : List FileOutcome) :
    ReportsEach style outcomes (report style outcomes) :=
  ((Tally.covers_empty style).foldl outcomes).reportsEach

end SyntaxQuery
