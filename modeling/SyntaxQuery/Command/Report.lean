import SyntaxQuery.Command.Failure
import SyntaxQuery.Command.Hit
import SyntaxQuery.Config.Basic

/-!
Contract: the outcomes of the files of a query as a report.

Owns:
- what each file adds to the report, and the totals;
- the end of a report and the exit status;
- the output of a command.

Does not own: how the outcome of a file comes about.
-/

namespace SyntaxQuery

/-- What a command leaves behind. -/
structure Output where
  status : Nat
  standardOutput : String
  standardError : String
deriving DecidableEq, Repr

/-- A text from lines, each with a line end. -/
def terminated (lines : List String) : String :=
  String.join (lines.map fun line => line ++ "\n")

/-- The outcome of a file: the nodes reported from it, or the chain of messages of its failure. -/
structure FileOutcome where
  path : String
  result : Except (List String) (List Hit)

/-- How a report is written. -/
structure ReportStyle where
  format : OutputFormat
  countOnly : Bool
  colored : Bool
deriving DecidableEq, Repr

/-- A report in the making. Lines, items and complaints are kept last first; a report in text has no
items, and one in JSON no lines. -/
structure Tally where
  lines : List String
  items : List Json
  complaints : List String
  files : Nat
  matched : Nat
  failed : Nat

namespace Tally

/-- The report on no files. -/
def empty : Tally := ⟨[], [], [], 0, 0, 0⟩

/-- The lines of text for a file's hits. -/
def linesOf (style : ReportStyle) (path : String) (hits : List Hit) : List String :=
  match style.format with
  | .text =>
      if style.countOnly then [path ++ ": " ++ Nat.repr hits.length]
      else hits.map (Hit.text style.colored path)
  | .json => []

/-- The items of the JSON array for a file's hits. -/
def itemsOf (style : ReportStyle) (path : String) (hits : List Hit) : List Json :=
  match style.format with
  | .text => []
  | .json =>
      if style.countOnly then
        [.object [("file", .string path), ("count", .ofNat hits.length)]]
      else hits.map (Hit.json path)

/-- The line that tells of a file's failure. -/
def complaintOf (style : ReportStyle) (path : String) (chain : List String) : String :=
  Style.red.paint style.colored "✗" ++ " " ++ path ++ ": " ++ Command.inlineChain chain

def add (style : ReportStyle) (tally : Tally) (outcome : FileOutcome) : Tally :=
  match outcome.result with
  | .ok hits =>
      { tally with
        lines := (linesOf style outcome.path hits).reverse ++ tally.lines
        items := (itemsOf style outcome.path hits).reverse ++ tally.items
        files := tally.files + 1
        matched := tally.matched + hits.length }
  | .error chain =>
      { tally with
        complaints := complaintOf style outcome.path chain :: tally.complaints
        files := tally.files + 1
        failed := tally.failed + 1 }

/-- The lines that end a report in text. -/
def summary (style : ReportStyle) (tally : Tally) : List String :=
  let noun := if tally.matched = 1 then "match" else "matches"
  let total := Style.green.paint style.colored (Nat.repr tally.matched)
  let failures :=
    if tally.failed = 0 then []
    else [Style.red.paint style.colored (Nat.repr tally.failed) ++ " file(s) failed"]
  ["", total ++ " " ++ noun ++ " in " ++ Nat.repr tally.files ++ " file(s)"] ++ failures

def output (style : ReportStyle) (tally : Tally) : Output where
  status := if tally.failed = 0 then 0 else 1
  standardOutput :=
    match style.format with
    | .text => terminated (tally.lines.reverse ++ tally.summary style)
    | .json => (Json.array tally.items.reverse).pretty ++ "\n"
  standardError := terminated tally.complaints.reverse

end Tally

/-- The report on the outcomes of files, in order. -/
def report (style : ReportStyle) (outcomes : List FileOutcome) : Output :=
  (outcomes.foldl (Tally.add style) .empty).output style

end SyntaxQuery
