import SyntaxQuery.Command.Run
import SyntaxQuery.Expression.Reader
import SyntaxQuery.Proofs.Command.Tallies
import SyntaxQuery.Proofs.Json.RoundTrip
import SyntaxQuery.Proofs.Query.Reports
import SyntaxQuery.Toml.Reader

/-!
Contract: a file that fails does not disturb a query of others.

A query whose settings, selector and inputs load reports on each of its files
(`runQuery_eq_report`), and what it has for a file is what a query of that file alone has. The file
system does not change while the command runs.

Does not own: what a report says of a file.
-/

namespace SyntaxQuery

/-! ## Input files by their own paths -/

namespace InputFile

variable {files : FileSystem Id} {dialect? : Option Dialect}

/-- A file found in a directory can also be named. -/
theorem named?_of_found? {path : String} {file : InputFile}
    (found : found? dialect? path = some file) : named? dialect? file.path = some file := by
  unfold found? at found
  obtain ⟨dialect, ofExtension, found⟩ := Option.bind_eq_some_iff.mp found
  split at found
  · next wanted =>
      cases found
      cases dialect? with
      | none => simp [named?, ofExtension]
      | some asked =>
          have same : asked = dialect := eq_of_beq wanted
          rw [same]
          rfl
  · cases found

theorem named?_of_mem_expand {path : String} {found : List InputFile}
    (expanded : (expand files dialect? path).run = .ok found) {file : InputFile}
    (isFound : file ∈ found) : named? dialect? file.path = some file := by
  unfold expand at expanded
  rw [Id.run_bind] at expanded
  split at expanded
  · rw [Id.run_bind] at expanded
    split at expanded
    · cases expanded
      obtain ⟨below, _, isFound⟩ := List.mem_filterMap.mp (List.mem_mergeSort.mp isFound)
      exact named?_of_found? isFound
    · cases expanded
  · split at expanded
    · next named =>
        cases expanded
        cases List.mem_singleton.mp isFound
        obtain ⟨dialect, _, rfl⟩ := Option.map_eq_some_iff.mp named
        exact named
    · cases expanded

/-- Every collected file is the one that its path names. -/
theorem named?_of_mem_collect {paths : List String} {inputs : List InputFile}
    (collected : (collect files dialect? paths).run = .ok inputs) {file : InputFile}
    (isInput : file ∈ inputs) : named? dialect? file.path = some file := by
  induction paths generalizing inputs with
  | nil =>
      cases collected
      cases isInput
  | cons path rest inductionHypothesis =>
      rw [collect, Id.run_bind] at collected
      split at collected
      · cases collected
      · next found expanded =>
        rw [Id.run_bind] at collected
        split at collected
        · cases collected
        · next others othersCollected =>
          cases collected
          rcases List.mem_append.mp isInput with isFound | isOther
          · exact named?_of_mem_expand expanded isFound
          · exact inductionHypothesis othersCollected isOther

/-- A file that is no directory is collected by its own path. -/
theorem collect_singleton {file : InputFile} (isFile : (files.isDirectory file.path).run = false)
    (named : named? dialect? file.path = some file) :
    (collect files dialect? [file.path]).run = .ok [file] := by
  have expanded : (expand files dialect? file.path).run = .ok [file] := by
    rw [expand, Id.run_bind, isFile, if_neg Bool.false_ne_true, named]
    rfl
  rw [collect, Id.run_bind, expanded]
  rfl

end InputFile

/-! ## Queries -/

/-- How a query writes its report. -/
def QueryRequest.style (request : QueryRequest) (surroundings : Surroundings Id) (config : Config) :
    ReportStyle where
  format := request.format?.getD config.format
  countOnly := request.countOnly
  colored := surroundings.colored && !request.plain && config.color

namespace Command

/-- The settings, the selector and the input files of a query load, and there are some files. -/
structure Loads (surroundings : Surroundings Id) (request : QueryRequest) (config : Config)
    (selector : Selector) (inputs : List InputFile) : Prop where
  settings : (loadSettings surroundings request.config?).run = .ok config
  origin : (loadOrigin surroundings request.selector).run = .ok selector
  collected :
    (InputFile.collect surroundings.files request.dialect? request.inputs).run = .ok inputs
  nonempty : inputs ≠ []

variable {surroundings : Surroundings Id} {request : QueryRequest} {config : Config}
variable {selector : Selector} {inputs : List InputFile}

theorem runQuery_eq_report (loads : Loads surroundings request config selector inputs) :
    (runQuery surroundings request).run =
      report (request.style surroundings config)
        (inputs.map fun file => (outcomeOf surroundings config selector file).run) := by
  obtain ⟨settings, origin, collected, nonempty⟩ := loads
  rw [runQuery, Id.run_bind, settings]
  dsimp only
  rw [Id.run_bind, origin]
  dsimp only
  rw [Id.run_bind, collected]
  cases inputs with
  | nil => exact absurd rfl nonempty
  | cons first rest =>
      dsimp only
      rw [Id.run_bind, List.idRun_mapM]
      rfl

/-- A query loads alike when it is of one of its files alone. -/
theorem Loads.alone (loads : Loads surroundings request config selector inputs) {file : InputFile}
    (isInput : file ∈ inputs) (isFile : (surroundings.files.isDirectory file.path).run = false) :
    Loads surroundings { request with inputs := [file.path] } config selector [file] where
  settings := loads.settings
  origin := loads.origin
  collected := InputFile.collect_singleton isFile
    (InputFile.named?_of_mem_collect loads.collected isInput)
  nonempty := List.cons_ne_nil file []

/-- A report is full whichever of its files failed: it has the parts of all files in turn, the
totals over all of them, and a status that tells of any failure. So a query reports on each of its
files, and on each as a query of that file alone does. -/
theorem query_reports_each_file :
    (∀ (style : ReportStyle) (outcomes : List FileOutcome),
      ReportsEach style outcomes (report style outcomes)) ∧
    ∀ {surroundings : Surroundings Id} {request : QueryRequest} {config : Config}
      {selector : Selector} {inputs : List InputFile},
      Loads surroundings request config selector inputs →
        ReportsEach (request.style surroundings config)
          (inputs.map fun file => (outcomeOf surroundings config selector file).run)
          (runQuery surroundings request).run ∧
        ∀ file ∈ inputs, (surroundings.files.isDirectory file.path).run = false →
          ReportsEach (request.style surroundings config)
            [(outcomeOf surroundings config selector file).run]
            (runQuery surroundings { request with inputs := [file.path] }).run := by
  refine ⟨report_reportsEach, fun loads => ⟨?_, fun file isInput isFile => ?_⟩⟩
  · rw [runQuery_eq_report loads]
    exact report_reportsEach _ _
  · rw [runQuery_eq_report (loads.alone isInput isFile)]
    exact report_reportsEach _ _

/-! ## A query of a document and of a file that is not there -/

/-- A record that has nothing but a type. -/
def typed (type : String) : Json :=
  .object [("type", .string type)]

theorem parse?_typed (type : String) : Json.parse? (typed type).compact = some (typed type) := by
  have distinct : (typed type).KeysDistinct := by
    simp [typed, Json.KeysDistinct, Json.MemberKeysDistinct]
  have noNumbers : (typed type).NumbersReadBack := by
    intro number isNumber
    cases isNumber
  have nesting : (typed type).nesting = 1 := rfl
  rw [Json.parse?_compact distinct noNumbers, nesting, if_pos (by decide)]

/-- The root of a document of one node. -/
def loneNode : DocumentNode :=
  ⟨[], typed "ThisExpression"⟩

/-- A working directory with the document `a.json` of one node, and nothing else. -/
def loneDocument : Surroundings Id where
  files := {
    read := fun path => pure <|
      if path = "a.json" then .ok (typed "ThisExpression").compact.toUTF8 else .error .notFound
    isFile := fun _ => pure false
    isDirectory := fun _ => pure false
    filesBelow := fun _ => pure (.ok [])
    workingDirectory := "/" }
  standardInput := pure .empty
  parse := fun _ => pure (.error .gaveUp)
  buildRegex := Expression.build
  readToml := Toml.read?
  colored := false

/-- A query for every node of some files. -/
def everyNodeOf (inputs : List String) : QueryRequest where
  selector := .inline (typed "wildcard").compact
  inputs := inputs
  dialect? := none
  config? := none
  format? := none
  countOnly := false
  plain := false

theorem loads_everyNodeOf :
    Loads loneDocument (everyNodeOf ["b.json", "a.json"]) .default (.single .wildcard false)
      [⟨"b.json", .document⟩, ⟨"a.json", .document⟩] where
  settings := rfl
  origin := by
    have loaded : (loadSelector loneDocument.buildRegex (typed "wildcard").compact .empty).1 =
        .ok (.single .wildcard false) := by
      rw [loadSelector, parse?_typed]
      rfl
    rw [everyNodeOf, loadOrigin, loaded]
    rfl
  collected := rfl
  nonempty := List.cons_ne_nil _ _

/-- The bytes of a text decode as the text. -/
theorem decodeUtf8_toUTF8 (text : String) : decodeUtf8 text.toUTF8 = .ok text := by
  have isValid : text.toUTF8.IsValidUTF8 := text.isValidUTF8
  rw [decodeUtf8, String.fromUTF8?, dif_pos isValid]
  rfl

theorem readDocument_loneDocument :
    (loneDocument.files.readDocument "a.json").run = .ok loneNode := by
  have isHeld : (loneDocument.files.read "a.json").run =
      .ok (typed "ThisExpression").compact.toUTF8 := rfl
  have isText : (loneDocument.files.readText "a.json").run =
      .ok (typed "ThisExpression").compact := by
    rw [FileSystem.readText, Id.run_bind, isHeld]
    dsimp only
    rw [Id.run_pure, decodeUtf8_toUTF8]
  rw [FileSystem.readDocument, Id.run_bind, isText]
  dsimp only
  rw [Id.run_pure, loadDocument, parse?_typed]
  rfl

theorem hitsOf_loneNode :
    hitsOf Config.default.schema.childFields (.single .wildcard false) .ofDocument loneNode =
      .ok [Hit.ofDocument loneNode] := by
  have keys : Config.default.schema.keysOf? "ThisExpression" = some [] := by decide +kernel
  have kind : loneNode.kind = "ThisExpression" := rfl
  have noFields : Config.default.schema.childFields loneNode = .ok [] := by
    rw [DocumentSchema.childFields, kind, keys]
  have noChildren : children Config.default.schema.childFields loneNode = .ok [] := by
    rw [children, noFields]
    rfl
  have visited : visits Config.default.schema.childFields (.root loneNode) =
      ⟨[.root loneNode], none⟩ := by
    rw [visits_of_children noChildren]
    rfl
  rw [hitsOf, matchTree_eq_reports_of_visits, visited]
  rfl

theorem outcomeOf_loneDocument :
    (outcomeOf loneDocument .default (.single .wildcard false) ⟨"a.json", .document⟩).run =
      ⟨"a.json", .ok [Hit.ofDocument loneNode]⟩ := by
  rw [outcomeOf, Id.run_bind, hitsIn]
  dsimp only
  rw [Id.run_bind, readDocument_loneDocument]
  dsimp only
  rw [Id.run_pure, hitsOf_loneNode]
  rfl

/-- One of the two files is not there. The other is reported as in a query of that file alone, with
the same line. -/
theorem loneDocument_reported_beside_failure :
    Loads loneDocument (everyNodeOf ["b.json", "a.json"]) .default (.single .wildcard false)
        [⟨"b.json", .document⟩, ⟨"a.json", .document⟩] ∧
      (runQuery loneDocument (everyNodeOf ["b.json", "a.json"])).run.standardOutput =
        terminated ["a.json  ThisExpression", "", "1 match in 2 file(s)", "1 file(s) failed"] ∧
      (runQuery loneDocument (everyNodeOf ["b.json", "a.json"])).run.status = 1 ∧
      (runQuery loneDocument (everyNodeOf ["a.json"])).run.standardOutput =
        terminated ["a.json  ThisExpression", "", "1 match in 1 file(s)"] ∧
      (runQuery loneDocument (everyNodeOf ["a.json"])).run.status = 0 := by
  have missing : (outcomeOf loneDocument .default (.single .wildcard false)
      ⟨"b.json", .document⟩).run =
        ⟨"b.json", .error (TreeLoadError.unreadable "b.json" .notFound).chain⟩ :=
    rfl
  obtain ⟨whole, alone⟩ := query_reports_each_file.2 loads_everyNodeOf
  have single := alone ⟨"a.json", .document⟩ (by simp) rfl
  simp only [List.map_cons, List.map_nil, missing, outcomeOf_loneDocument] at whole single
  refine ⟨loads_everyNodeOf, (whole.text rfl).trans ?_, whole.status.trans rfl,
    (single.text rfl).trans ?_, single.status.trans rfl⟩ <;>
    decide +kernel

end Command

end SyntaxQuery
