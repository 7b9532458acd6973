import ConventionLint.Proofs.Report.Placement
import ConventionLint.Proofs.Run.Outcome

/-!
Models are shown in isolation.

What a run prints of a model is what a run on that model alone prints, whichever other models take
part; the names of their files and the texts of these may be the same or not. Inside a model, every
diagnostic is shown with the text of the file that has the operation it was reported at.
-/
namespace ConventionLint

def Host.Produces (host : Host) (program : Program) (file : SourceFile) (id : OperationId)
    (operation : Operation) (d : Diagnostic) : Prop :=
  (id, operation) ∈ file.walk ∧ ∃ action ∈ host.table.actionsFor operation.kind,
    ∃ raw ∈ action ⟨program, file, id, operation⟩, host.grade raw = some d

theorem Host.mem_analyzeFile_iff (host : Host) (program : Program) (file : SourceFile)
    (d : Diagnostic) :
    d ∈ host.analyzeFile program file ↔ ∃ id operation, host.Produces program file id operation d := by
  rw [analyzeFile, List.mem_filterMap]
  constructor
  · rintro ⟨raw, reported, graded⟩
    obtain ⟨⟨id, operation⟩, walked, taken⟩ := List.mem_flatMap.mp reported
    obtain ⟨action, registered, inside⟩ := List.mem_flatMap.mp taken
    exact ⟨id, operation, walked, action, registered, raw, inside, graded⟩
  · rintro ⟨id, operation, walked, action, registered, raw, inside, graded⟩
    refine ⟨raw, List.mem_flatMap.mpr ⟨(id, operation), walked, ?_⟩, graded⟩
    exact List.mem_flatMap.mpr ⟨action, registered, inside⟩

theorem Host.exists_produces_of_mem_analyze (host : Host) (program : Program) (d : Diagnostic)
    (found : d ∈ host.analyze program) :
    ∃ file ∈ program.files, ∃ id operation, host.Produces program file id operation d := by
  obtain ⟨file, listed, raw, reported, graded⟩ := (host.mem_analyze program d).mp found
  have shown : d ∈ host.analyzeFile program file := List.mem_filterMap.mpr ⟨raw, reported, graded⟩
  exact ⟨file, listed, (host.mem_analyzeFile_iff program file d).mp shown⟩

theorem Host.file_of_produces (rules : RuleMap) (program : Program) (file : SourceFile)
    (id : OperationId) (operation : Operation) (d : Diagnostic)
    (produces : (builtIn rules).Produces program file id operation d) : d.file = file.name := by
  apply (builtIn rules).file_of_mem_analyzeFile (builtIn_confined rules) program file d
  exact ((builtIn rules).mem_analyzeFile_iff program file d).mpr ⟨id, operation, produces⟩

namespace Run

/-- A diagnostic is reported at some operation of the program, and it is shown with the text of the
file of that operation. -/
structure ShownByOrigin (host : Host) (program : Program) (d : Diagnostic)
    (piece : Report.Styled) : Prop where
  origin : ∃ file ∈ program.files, ∃ id operation, host.Produces program file id operation d
  shown : ∀ file ∈ program.files, ∀ id operation, host.Produces program file id operation d →
    ∃ place extract, piece = Report.heading place d ++ extract ∧
      Report.ShownFrom file d place extract

def onlyModel (commandLine : CommandLine) (path : Path) : CommandLine :=
  { commandLine with inputPaths := [path] }

structure Isolated (fs : FileSystem) (cwd : Path) (display : Display) (commandLine : CommandLine)
    (host : Host) (report : ModelReport) : Prop where
  alone : analyze fs (onlyModel commandLine report.path) cwd = .ok [report]
  printed : report.diagnostics ≠ [] →
    (outcome fs cwd display (onlyModel commandLine report.path)).output =
      block (usesColor display commandLine) report ++ textFooter report.diagnostics
  skipped : report.diagnostics = [] →
    (outcome fs cwd display (onlyModel commandLine report.path)).output = ""
  shown : ∃ program, loadModel fs report.path = .ok program ∧
    report = reportOf host report.path program ∧
    ((program.files.map SourceFile.name).Nodup → ∃ pieces,
      List.Forall₂ (ShownByOrigin host program) report.diagnostics pieces ∧
        report.render = [⟨['\n'], none⟩].intercalate pieces)

theorem shownByOrigin (rules : RuleMap) (program : Program)
    (distinct : (program.files.map SourceFile.name).Nodup) (d : Diagnostic)
    (found : d ∈ (Host.builtIn rules).analyze program) :
    ShownByOrigin (Host.builtIn rules) program d
      (Report.diagnostic (Report.Sources.empty.addAll (Report.textsOf program.files)) d) where
  origin := Host.exists_produces_of_mem_analyze _ program d found
  shown file listed id operation produces :=
    Report.shownFrom_of_distinct program.files distinct file listed d
      (Host.file_of_produces rules program file id operation d produces)

section Alone

variable (fs : FileSystem) (commandLine : CommandLine) (cwd : Path)

theorem readText_of_loadModel (path : Path) (program : Program)
    (loaded : loadModel fs path = .ok program) : ∃ text, fs.readText path = .ok text := by
  unfold loadModel at loaded
  split at loaded
  · cases loaded
  · next text read => exact ⟨text, read⟩

theorem analyze_onlyModel (settings : Settings) (directory path : Path) (program : Program)
    (ready : Run.settings fs commandLine cwd = .ok (settings, directory))
    (loaded : loadModel fs path = .ok program) :
    analyze fs (onlyModel commandLine path) cwd =
      .ok [reportOf (Host.builtIn settings.rules) path program] := by
  obtain ⟨text, read⟩ := readText_of_loadModel fs path program loaded
  -- The path has been read, so it is absolute and leads to a file: as an input it stands for itself.
  obtain ⟨absolute, isFile⟩ := fs.isFile_of_readText path text read
  have inputs : inputPaths (onlyModel commandLine path) cwd = [path] :=
    congrArg (fun input => [input]) (cwd.join_of_isAbsolute path absolute)
  have found : Discovery.models fs settings [path] directory = .ok [path] := by
    apply Discovery.models_of_files _ _ _ _ (List.cons_ne_nil path [])
    · simpa using isFile
    · exact List.pairwise_singleton _ path
  apply (analyze_eq_ok_iff fs _ cwd _).mpr
  refine ⟨settings, directory, [(path, program)], ready, ?_, ?_, rfl⟩
  · rw [inputs]
    exact found
  · simpa using loaded

end Alone

theorem output_of_analyze (fs : FileSystem) (cwd : Path) (display : Display)
    (commandLine : CommandLine) (analyzes : Analyzes commandLine) (text : commandLine.format = .text)
    (reports : List ModelReport) (analyzed : analyze fs commandLine cwd = .ok reports) :
    (outcome fs cwd display commandLine).output =
      textBody (usesColor display commandLine) reports ++ textFooter (diagnostics reports) := by
  have attempted := (attempt_analyzes_eq_ok_iff fs cwd display commandLine analyzes _).mpr
    ⟨reports, _, analyzed, by rw [reportOutput, text], rfl⟩
  simp only [outcome, Except.mapError, Except.bind, attempted]
  exact textOutput_eq _ reports

theorem diagnostics_single (report : ModelReport) : diagnostics [report] = report.diagnostics := by
  simp [diagnostics]

theorem textBody_single (color : Bool) (report : ModelReport) (found : report.diagnostics ≠ []) :
    textBody color [report] = block color report := by
  simp [textBody, found]

theorem render_reportOf (rules : RuleMap) (path : Path) (program : Program)
    (distinct : (program.files.map SourceFile.name).Nodup) :
    ∃ pieces, List.Forall₂ (ShownByOrigin (Host.builtIn rules) program)
        (reportOf (Host.builtIn rules) path program).diagnostics pieces ∧
      (reportOf (Host.builtIn rules) path program).render = [⟨['\n'], none⟩].intercalate pieces := by
  refine ⟨_, ?_, Report.diagnostics_eq_intercalate _ _⟩
  rw [List.forall₂_map_right_iff, List.forall₂_same]
  intro d found
  exact shownByOrigin rules program distinct d found

theorem isolated_of_loads (fs : FileSystem) (cwd : Path) (display : Display)
    (commandLine : CommandLine) (analyzes : Analyzes commandLine) (text : commandLine.format = .text)
    (settings : Settings) (directory path : Path) (program : Program)
    (ready : Run.settings fs commandLine cwd = .ok (settings, directory))
    (loaded : loadModel fs path = .ok program) :
    Isolated fs cwd display commandLine (Host.builtIn settings.rules)
      (reportOf (Host.builtIn settings.rules) path program) := by
  have alone := analyze_onlyModel fs commandLine cwd settings directory path program ready loaded
  have output := output_of_analyze fs cwd display (onlyModel commandLine path) analyzes text _ alone
  refine ⟨alone, ?_, ?_, program, loaded, rfl, render_reportOf settings.rules path program⟩
  · intro found
    apply output.trans
    rw [textBody_single _ _ found, diagnostics_single]
    rfl
  · intro none
    apply output.trans
    rw [← textOutput_eq]
    apply textOutput_of_none
    rw [diagnostics_single, none]
    rfl

/-- The text of a run is one block for each model that has diagnostics, in the order of paths, and
then the summary. The block of a model is the one that a run on it alone prints with the same options.
If the names of its files are distinct, each diagnostic in it is shown with the text of the file of
the operation that it is reported at: with a position if there is such a text, and with a snippet if
moreover it covers something. -/
theorem outcome_isolates_models (fs : FileSystem) (cwd : Path) (display : Display)
    (commandLine : CommandLine) (analyzes : Analyzes commandLine) (text : commandLine.format = .text)
    (reports : List ModelReport) (analyzed : analyze fs commandLine cwd = .ok reports) :
    (outcome fs cwd display commandLine).output =
        String.join ((reports.filter fun report => !report.diagnostics.isEmpty).map
          (block (usesColor display commandLine))) ++ textFooter (diagnostics reports) ∧
      ∃ settings directory, Run.settings fs commandLine cwd = .ok (settings, directory) ∧
        Discovery.models fs settings (inputPaths commandLine cwd) directory =
          .ok (reports.map ModelReport.path) ∧
        (reports.map ModelReport.path).Pairwise (fun a b => a.key < b.key) ∧
        ∀ report ∈ reports,
          Isolated fs cwd display commandLine (Host.builtIn settings.rules) report := by
  refine ⟨output_of_analyze fs cwd display commandLine analyzes text reports analyzed, ?_⟩
  obtain ⟨settings, directory, models, ready, found, loads, rfl⟩ :=
    (analyze_eq_ok_iff fs commandLine cwd reports).mp analyzed
  have paths : (models.map fun model =>
      reportOf (Host.builtIn settings.rules) model.1 model.2).map ModelReport.path =
        models.map Prod.fst := by
    rw [List.map_map]
    rfl
  refine ⟨settings, directory, ready, ?_, ?_, ?_⟩
  · rw [paths]
    exact found
  · rw [paths]
    exact Discovery.models_increasing _ _ _ _ _ found
  · intro report member
    obtain ⟨model, listed, rfl⟩ := List.mem_map.mp member
    exact isolated_of_loads fs cwd display commandLine analyzes text settings directory model.1 model.2
      ready (loads model listed)

def assigningFile (text : String) : SourceFile :=
  { Host.violating "p.cs" with text := some text }

def assigning (text : String) : Program := { Host.twoFiles with files := [assigningFile text] }

def assigningReport (path : Path) (text : String) : ModelReport :=
  reportOf (Host.builtIn .empty) path (assigning text)

def assigned : Diagnostic where
  id := "IBC1000"
  severity := .error
  category := "Mutation"
  file := "p.cs"
  start := 0
  length := 7
  message := "Property 'X' belongs to a type that is immutable by convention and cannot be assigned"

theorem assigning_diagnostics (path : Path) (text : String) :
    (assigningReport path text).diagnostics = [assigned] := by
  have walk : (assigningFile text).walk = [(⟨1⟩, Host.assigningX), (⟨0⟩, Host.referringX)] := by cbv
  have violations : ImmutableByConvention.violations (assigning text) =
      [⟨0, assigningFile text, ⟨1⟩, Host.assigningX, Host.propertyX⟩] := by
    change ImmutableByConvention.violationsIn (assigning text) 0 (assigningFile text) ++ [] = _
    rw [ImmutableByConvention.violationsIn, walk]
    rfl
  -- The text of a file is not in its diagnostics, so an empty one does as well.
  have shown : ImmutableByConvention.Violation.diagnostic .error
      ⟨0, assigningFile "", ⟨1⟩, Host.assigningX, Host.propertyX⟩ = assigned := by
    decide +kernel
  change (Host.builtIn .empty).analyze (assigning text) = [assigned]
  rw [ImmutableByConvention.analyze_eq .empty .error rfl, violations, List.map_singleton,
    Diagnostic.sort, List.mergeSort_singleton]
  exact congrArg (fun d => [d]) shown

def namesakes : FileSystem := shelf (assigning "p.X = 5;").toJson (assigning "q.X = 6;").toJson

def bothModels : CommandLine := { inputPaths := [⟨"a.json"⟩, ⟨"b.json"⟩] }

theorem namesakes_load :
    loadModel namesakes ⟨"/a.json"⟩ = .ok (assigning "p.X = 5;") ∧
      loadModel namesakes ⟨"/b.json"⟩ = .ok (assigning "q.X = 6;") := by
  obtain ⟨left, right, _⟩ := shelf_readText (assigning "p.X = 5;").toJson (assigning "q.X = 6;").toJson
  exact ⟨loadModel_toJson _ _ _ left, loadModel_toJson _ _ _ right⟩

theorem namesakes_settings :
    ∃ settings, Run.settings namesakes bothModels ⟨"/"⟩ = .ok (settings, ⟨"/"⟩) ∧
      settings.rules = .empty :=
  shelf_settings _ _ _ _

theorem namesakes_analyze :
    analyze namesakes bothModels ⟨"/"⟩ =
      .ok [assigningReport ⟨"/a.json"⟩ "p.X = 5;", assigningReport ⟨"/b.json"⟩ "q.X = 6;"] := by
  obtain ⟨settings, ready, rules⟩ := namesakes_settings
  have paths : inputPaths bothModels ⟨"/"⟩ = [⟨"/a.json"⟩, ⟨"/b.json"⟩] := by decide +kernel
  apply (analyze_eq_ok_iff _ _ _ _).mpr
  refine ⟨settings, ⟨"/"⟩, [(⟨"/a.json"⟩, assigning "p.X = 5;"), (⟨"/b.json"⟩, assigning "q.X = 6;")],
    ready, ?_, ?_, ?_⟩
  · rw [paths]
    exact shelf_models _ _ _ _ _ (by simp) (by simp)
  · simp [namesakes_load]
  · rw [rules]
    rfl

theorem namesakes_isolated :
    Analyzes bothModels ∧ bothModels.format = .text ∧
      analyze namesakes bothModels ⟨"/"⟩ =
        .ok [assigningReport ⟨"/a.json"⟩ "p.X = 5;", assigningReport ⟨"/b.json"⟩ "q.X = 6;"] ∧
      (outcome namesakes (.ok ⟨"/"⟩) {} bothModels).output =
        block false (assigningReport ⟨"/a.json"⟩ "p.X = 5;") ++
          block false (assigningReport ⟨"/b.json"⟩ "q.X = 6;") ++ "\nFound 2 errors.\n" ∧
      (outcome namesakes (.ok ⟨"/"⟩) {} { inputPaths := [⟨"/b.json"⟩] }).output =
        block false (assigningReport ⟨"/b.json"⟩ "q.X = 6;") ++ "\nFound 1 error.\n" ∧
      ((assigning "q.X = 6;").files.map SourceFile.name).Nodup ∧
      ∃ piece, ShownByOrigin (Host.builtIn .empty) (assigning "q.X = 6;") assigned piece ∧
        (assigningReport ⟨"/b.json"⟩ "q.X = 6;").render = piece := by
  have analyzes : Analyzes bothModels := ⟨rfl, rfl⟩
  have distinct : ((assigning "q.X = 6;").files.map SourceFile.name).Nodup := List.nodup_singleton _
  have one : textFooter [assigned] = "\nFound 1 error.\n" := by decide +kernel
  have both : textFooter [assigned, assigned] = "\nFound 2 errors.\n" := by decide +kernel
  obtain ⟨output, settings, directory, ready, _, _, isolated⟩ :=
    outcome_isolates_models namesakes ⟨"/"⟩ {} bothModels analyzes rfl _ namesakes_analyze
  obtain ⟨_, ready', rules⟩ := namesakes_settings
  cases ready.symm.trans ready'
  have second := isolated (assigningReport ⟨"/b.json"⟩ "q.X = 6;") (by simp)
  refine ⟨analyzes, rfl, namesakes_analyze, ?_, ?_, distinct, ?_⟩
  · apply output.trans
    simp [diagnostics, assigning_diagnostics, both, usesColor, bothModels]
  · have printed := second.printed (by simp [assigning_diagnostics])
    rw [assigning_diagnostics, one] at printed
    exact printed
  · obtain ⟨program, loaded, _, shown⟩ := second.shown
    cases loaded.symm.trans namesakes_load.2
    obtain ⟨pieces, each, render⟩ := shown distinct
    rw [assigning_diagnostics, rules] at each
    cases each with
    | cons first rest =>
        cases rest
        exact ⟨_, first, render.trans (by simp [List.intercalate])⟩

end Run

end ConventionLint
