import ConventionLint.Proofs.Config.Precedence
import ConventionLint.Proofs.Discovery.Order
import ConventionLint.Proofs.Host.FileOrder
import ConventionLint.Proofs.Program.RoundTrip
import ConventionLint.Proofs.Report.Listing
import ConventionLint.Proofs.Report.Summary
import ConventionLint.Proofs.Rules.ImmutableByConvention
import ConventionLint.Proofs.Run.Analysis

namespace ConventionLint.Run

/-- The line below a text is there if there are diagnostics; its counts add up to their number, and
agree with the status. -/
structure SummaryAgrees (outcome : Outcome) (total : Nat) : Prop where
  shown : (∃ tally, Report.Summarizes outcome.output tally) ↔ total ≠ 0
  counts : ∀ tally, Report.Summarizes outcome.output tally →
    tally.errors + tally.others = total ∧ (outcome.status = 1 ↔ 0 < tally.errors)
  silent : total = 0 → outcome.status = 0

def ListingAgrees (outcome : Outcome) : Prop :=
  ∃ elements, Json.parse? outcome.output = some (.array elements) ∧
    (outcome.status = 1 ↔ ∃ element ∈ elements, ∃ fields, element = .object fields ∧
      fields.lookup "severity" = some (.string "error"))

section Output

def block (color : Bool) (report : ModelReport) : String := report.render.write color ++ "\n"

def textBody (color : Bool) (reports : List ModelReport) : String :=
  String.join ((reports.filter fun report => !report.diagnostics.isEmpty).map (block color))

def textFooter (diagnostics : List Diagnostic) : String :=
  if diagnostics.length = 0 then "" else "\n" ++ (Report.Tally.ofList diagnostics).line ++ "\n"

theorem textOutput_eq (color : Bool) (reports : List ModelReport) :
    textOutput color reports = textBody color reports ++ textFooter (diagnostics reports) := by
  by_cases none : (diagnostics reports).length = 0
  · simp only [textOutput, Report.summary_eq, textFooter, none, ↓reduceIte]
    rfl
  · simp only [textOutput, Report.summary_eq, textFooter, none, ↓reduceIte]
    rfl

theorem textOutput_of_none (color : Bool) (reports : List ModelReport)
    (none : (diagnostics reports).length = 0) : textOutput color reports = "" := by
  have silent : ∀ report ∈ reports, report.diagnostics = [] :=
    List.flatMap_eq_nil_iff.mp (List.eq_nil_of_length_eq_zero none)
  have blocks : (reports.filter fun report => !report.diagnostics.isEmpty) = [] := by
    apply List.filter_eq_nil_iff.mpr
    intro report member
    simp [silent report member]
  rw [textOutput_eq, textBody, blocks, textFooter, if_pos none]
  rfl

theorem not_summarizes_empty (tally : Report.Tally) : ¬ Report.Summarizes "" tally := by
  rintro ⟨before, shape⟩
  have texts := congrArg String.toList shape
  simp [String.toList_append] at texts

theorem errors_pos_iff (reports : List ModelReport) :
    0 < (Report.Tally.ofList (diagnostics reports)).errors ↔ hasErrors reports = true := by
  rw [hasErrors, List.any_eq_true]
  exact List.countP_pos_iff

theorem status_eq_one_iff (reports : List ModelReport) :
    (if hasErrors reports then 1 else 0) = 1 ↔ hasErrors reports = true := by
  simp

theorem summaryAgrees_textOutput (color : Bool) (reports : List ModelReport) :
    SummaryAgrees { status := if hasErrors reports then 1 else 0, output := textOutput color reports }
      (diagnostics reports).length := by
  by_cases none : (diagnostics reports).length = 0
  · have noErrors : hasErrors reports = false := by
      rw [hasErrors, List.eq_nil_of_length_eq_zero none]
      rfl
    have unsummarized : ∀ tally, ¬ Report.Summarizes (textOutput color reports) tally := by
      rw [textOutput_of_none color reports none]
      exact not_summarizes_empty
    refine ⟨⟨?_, fun some => absurd none some⟩, ?_, fun _ => by simp [noErrors]⟩
    · rintro ⟨tally, shown⟩
      exact absurd shown (unsummarized tally)
    · intro tally shown
      exact absurd shown (unsummarized tally)
  · have shown : Report.Summarizes (textOutput color reports)
        (Report.Tally.ofList (diagnostics reports)) := by
      refine ⟨textBody color reports, ?_⟩
      rw [textOutput_eq, textFooter, if_neg none]
      simp only [String.append_assoc]
    refine ⟨⟨fun _ => none, fun _ => ⟨_, shown⟩⟩, ?_, fun empty => absurd empty none⟩
    intro tally other
    -- A text ends with one such line only, so the counts are those of the diagnostics.
    obtain rfl := Report.Summarizes.unique _ _ _ other shown
    refine ⟨Report.tally_total _, ?_⟩
    rw [errors_pos_iff]
    exact status_eq_one_iff reports

theorem label_eq_error_iff (severity : Severity) : severity.label = "error" ↔ severity = .error := by
  cases severity <;> decide

theorem tagged_of_listed (reports : List ModelReport) (models : List (String × List Diagnostic))
    (listed : Run.listed reports = .ok models) :
    (Report.tagged models).map Prod.snd = diagnostics reports := by
  have kept : (reports.filter fun report => !report.diagnostics.isEmpty).flatMap
      ModelReport.diagnostics = diagnostics reports := by
    have skipped := List.flatten_filter_not_isEmpty (L := reports.map ModelReport.diagnostics)
    rw [List.filter_map] at skipped
    exact skipped
  have paired := (listed_eq_ok_iff reports models).mp listed
  rw [← kept]
  clear kept listed
  generalize (reports.filter fun report => !report.diagnostics.isEmpty) = shown at paired ⊢
  induction paired with
  | nil => rfl
  | cons related _ ih =>
      rw [List.flatMap_cons, ← ih, ← related.2]
      simp [Report.tagged, Function.comp_def]

theorem listingAgrees_jsonOutput (reports : List ModelReport) (text : String)
    (written : jsonOutput reports = .ok text) :
    ListingAgrees { status := if hasErrors reports then 1 else 0, output := text } := by
  obtain ⟨models, listed, rfl⟩ := (map_eq_ok_iff _ _ _).mp written
  have parsed := Json.parse_line (Report.listing models)
  rw [Report.value_listing] at parsed
  refine ⟨_, parsed, ?_⟩
  rw [status_eq_one_iff, hasErrors, ← tagged_of_listed reports models listed, List.any_map,
    List.any_eq_true]
  constructor
  · rintro ⟨item, member, error⟩
    obtain ⟨fields, object, holds⟩ := Report.entry_holds item.1 item.2
    refine ⟨_, List.mem_map_of_mem member, fields, object, ?_⟩
    rw [holds.severity, of_decide_eq_true error]
    rfl
  · rintro ⟨element, member, fields, object, error⟩
    obtain ⟨item, inside, rfl⟩ := List.mem_map.mp member
    obtain ⟨others, same, holds⟩ := Report.entry_holds item.1 item.2
    cases same.symm.trans object
    have label := holds.severity.symm.trans error
    simp only [Option.some.injEq, Json.Value.string.injEq, label_eq_error_iff] at label
    exact ⟨item, inside, decide_eq_true label⟩

end Output

section Attempt

variable (fs : FileSystem) (cwd : Path) (display : Display) (commandLine : CommandLine)

theorem attempt_of_listRules (lists : commandLine.listRules = true) :
    attempt fs cwd display commandLine = .ok
      { status := 0, output := (Report.rules knownRules).write (usesColor display commandLine) } :=
  if_pos lists

theorem attempt_of_showConfig (runs : commandLine.listRules = false)
    (shows : commandLine.showConfig = true) :
    attempt fs cwd display commandLine =
      (settings fs commandLine cwd).map fun (settings, _) =>
        { status := 0, output := settings.toValue.pretty ++ "\n" } := by
  simp only [attempt, runs, shows, Bool.false_eq_true, ↓reduceIte]

theorem attempt_of_analyzes (analyzes : Analyzes commandLine) :
    attempt fs cwd display commandLine =
      analyze fs commandLine cwd >>= fun reports =>
        (reportOutput display commandLine reports).map fun text =>
          { status := if hasErrors reports then 1 else 0, output := text } := by
  simp only [attempt, analyzes.1, analyzes.2, Bool.false_eq_true, ↓reduceIte]
  rfl

theorem attempt_of_no_settings (runs : commandLine.listRules = false) (failure : Failure)
    (unsettled : settings fs commandLine cwd = .error failure) :
    attempt fs cwd display commandLine = .error failure := by
  cases shows : commandLine.showConfig with
  | true =>
      rw [attempt_of_showConfig fs cwd display commandLine runs shows, unsettled]
      rfl
  | false =>
      rw [attempt_of_analyzes fs cwd display commandLine ⟨runs, shows⟩, analyze, unsettled]
      rfl

theorem attempt_of_no_analysis (analyzes : Analyzes commandLine) (failure : Failure)
    (failed : analyze fs commandLine cwd = .error failure) :
    attempt fs cwd display commandLine = .error failure := by
  rw [attempt_of_analyzes fs cwd display commandLine analyzes, failed]
  rfl

theorem attempt_of_stops (failure : Failure) (stops : Stops fs commandLine (.ok cwd) failure) :
    attempt fs cwd display commandLine = .error failure := by
  cases stops with
  | lookup _ _ runs failed =>
      apply attempt_of_no_settings fs cwd display commandLine runs
      rw [settings, failed]
      rfl
  | loading _ path _ runs found failed =>
      apply attempt_of_no_settings fs cwd display commandLine runs
      simp only [settings, found, failed, bind, Except.bind]
  | checking _ configPath config _ runs configures failed =>
      apply attempt_of_no_settings fs cwd display commandLine runs
      rw [settings_of_configures fs commandLine cwd configPath config configures, failed]
      rfl
  | discovery _ settings directory _ analyzes ready failed =>
      apply attempt_of_no_analysis fs cwd display commandLine analyzes
      rw [analyze_of_settings fs commandLine cwd settings directory ready, failed]
      rfl
  | reading _ settings directory before after path _ analyzes ready found passed failed =>
      apply attempt_of_no_analysis fs cwd display commandLine analyzes
      exact analyze_of_unread fs commandLine cwd settings directory before after path failure ready
        found passed failed
  | listing _ settings directory paths path program analyzes format ready found passed member loaded
      reported notText =>
      obtain ⟨models, rfl, loads, analyzed⟩ :=
        analyze_of_loads fs commandLine cwd settings directory paths ready found passed
      obtain ⟨model, inside, rfl⟩ := List.mem_map.mp member
      cases (loads model inside).symm.trans loaded
      have unlisted : listed (models.map fun model =>
          reportOf (Host.builtIn settings.rules) model.1 model.2) = .error .pathNotText := by
        refine (listed_eq_error_iff _ _).mpr ⟨fun listable => ?_, rfl⟩
        obtain ⟨text, named⟩ := listable _ (List.mem_map_of_mem inside) reported
        exact notText text named
      rw [attempt_of_analyzes fs cwd display commandLine analyzes, analyzed]
      simp only [bind, Except.bind, reportOutput, format, jsonOutput, unlisted]
      rfl

theorem stops_of_reportOutput (analyzes : Analyzes commandLine) (reports : List ModelReport)
    (analyzed : analyze fs commandLine cwd = .ok reports) (failure : Failure)
    (failed : reportOutput display commandLine reports = .error failure) :
    Stops fs commandLine (.ok cwd) failure := by
  cases format : commandLine.format with
  | text =>
      rw [reportOutput, format] at failed
      cases failed
  | json =>
      simp only [reportOutput, format, jsonOutput, map_eq_error_iff, listed_eq_error_iff] at failed
      obtain ⟨unlistable, rfl⟩ := failed
      obtain ⟨settings, directory, models, ready, found, loads, rfl⟩ :=
        (analyze_eq_ok_iff fs commandLine cwd reports).mp analyzed
      simp only [Listable, not_forall, not_exists] at unlistable
      obtain ⟨report, member, reported, unnamed⟩ := unlistable
      obtain ⟨model, inside, rfl⟩ := List.mem_map.mp member
      have passed : ∀ other ∈ models.map Prod.fst, ∃ program, loadModel fs other = .ok program := by
        intro other member
        obtain ⟨model, inside, rfl⟩ := List.mem_map.mp member
        exact ⟨model.2, loads model inside⟩
      exact .listing cwd settings directory _ model.1 model.2 analyzes format ready found passed
        (List.mem_map_of_mem inside) (loads model inside) reported unnamed

theorem stops_of_attempt (failure : Failure)
    (failed : attempt fs cwd display commandLine = .error failure) :
    Stops fs commandLine (.ok cwd) failure := by
  cases lists : commandLine.listRules with
  | true =>
      rw [attempt_of_listRules fs cwd display commandLine lists] at failed
      cases failed
  | false =>
      cases shows : commandLine.showConfig with
      | true =>
          rw [attempt_of_showConfig fs cwd display commandLine lists shows,
            map_eq_error_iff] at failed
          exact stops_of_settings fs commandLine cwd lists failure failed
      | false =>
          rw [attempt_of_analyzes fs cwd display commandLine ⟨lists, shows⟩,
            bind_eq_error_iff] at failed
          rcases failed with unanalyzed | ⟨reports, analyzed, failed⟩
          · exact stops_of_analyze fs commandLine cwd ⟨lists, shows⟩ failure unanalyzed
          · rw [map_eq_error_iff] at failed
            exact stops_of_reportOutput fs cwd display commandLine ⟨lists, shows⟩ reports analyzed
              failure failed

theorem attempt_eq_error_iff (failure : Failure) :
    attempt fs cwd display commandLine = .error failure ↔ Stops fs commandLine (.ok cwd) failure :=
  ⟨stops_of_attempt fs cwd display commandLine failure,
    attempt_of_stops fs cwd display commandLine failure⟩

theorem attempt_analyzes_eq_ok_iff (analyzes : Analyzes commandLine) (outcome : Outcome) :
    attempt fs cwd display commandLine = .ok outcome ↔ ∃ reports text,
      analyze fs commandLine cwd = .ok reports ∧
      reportOutput display commandLine reports = .ok text ∧
      { status := if hasErrors reports then 1 else 0, output := text } = outcome := by
  rw [attempt_of_analyzes fs cwd display commandLine analyzes]
  simp only [bind_eq_ok_iff, map_eq_ok_iff, exists_and_left]

theorem status_of_shows (shows : ¬ Analyzes commandLine) (outcome : Outcome)
    (attempted : attempt fs cwd display commandLine = .ok outcome) : outcome.status = 0 := by
  cases lists : commandLine.listRules with
  | true =>
      rw [attempt_of_listRules fs cwd display commandLine lists] at attempted
      cases attempted
      rfl
  | false =>
      have config : commandLine.showConfig = true :=
        (Bool.eq_false_or_eq_true _).resolve_right fun analyzes => shows ⟨lists, analyzes⟩
      rw [attempt_of_showConfig fs cwd display commandLine lists config] at attempted
      obtain ⟨_, _, rfl⟩ := (map_eq_ok_iff _ _ _).mp attempted
      rfl

end Attempt

section Accepted

variable (fs : FileSystem) (cwd : Except FileError Path) (display : Display) (commandLine : CommandLine)

theorem outcome_of_stops (failure : Failure) (stops : Stops fs commandLine cwd failure) :
    outcome fs cwd display commandLine =
      { status := 2, output := "", complaint := "error: " ++ failure.account ++ "\n" } := by
  cases cwd with
  | error e =>
      cases stops
      rfl
  | ok here =>
      simp only [outcome, Except.mapError, Except.bind,
        attempt_of_stops fs here display commandLine failure stops]

theorem attempt_of_passes (passes : ∀ failure, ¬ Stops fs commandLine cwd failure) :
    ∃ here result, cwd = .ok here ∧ attempt fs here display commandLine = .ok result ∧
      outcome fs cwd display commandLine = result := by
  cases cwd with
  | error e => exact absurd (.directory e) (passes _)
  | ok here =>
      cases attempted : attempt fs here display commandLine with
      | error failure =>
          exact absurd (stops_of_attempt fs here display commandLine failure attempted)
            (passes failure)
      | ok result =>
          refine ⟨here, result, rfl, attempted, ?_⟩
          simp only [outcome, Except.mapError, Except.bind, attempted]

end Accepted

/-- A run of an accepted command line that fails at some stage has status two and prints nothing, also
if models before the one that fails had diagnostics. A run that fails at no stage has status one if it
analyzes models and finds an error in one of them, and zero otherwise. What an analysis prints agrees
with that: in a text, the counts in the last line, which is there if anything was reported, and in
a listing, the severities of the entries. -/
theorem execute_status_agrees (fs : FileSystem) (cwd : Except FileError Path) (display : Display)
    (args : List Bytes) (commandLine : CommandLine)
    (accepted : CommandLine.parse args = .ok commandLine) :
    (∀ failure, Stops fs commandLine cwd failure →
      execute fs cwd display args =
        { status := 2, output := "", complaint := "error: " ++ failure.account ++ "\n" }) ∧
    ((∀ failure, ¬ Stops fs commandLine cwd failure) →
      ((execute fs cwd display args).status = 1 ↔ FindsError fs commandLine cwd) ∧
      ((execute fs cwd display args).status = 0 ↔ ¬ FindsError fs commandLine cwd) ∧
      (Analyzes commandLine → ∃ here reports, cwd = .ok here ∧
        analyze fs commandLine here = .ok reports ∧
        match commandLine.format with
        | .text => SummaryAgrees (execute fs cwd display args) (diagnostics reports).length
        | .json => ListingAgrees (execute fs cwd display args))) := by
  have run : execute fs cwd display args = outcome fs cwd display commandLine := by
    rw [execute, accepted]
  rw [run]
  refine ⟨outcome_of_stops fs cwd display commandLine, ?_⟩
  intro passes
  obtain ⟨here, result, rfl, attempted, left⟩ := attempt_of_passes fs cwd display commandLine passes
  rw [left]
  by_cases analyzes : Analyzes commandLine
  · obtain ⟨reports, text, analyzed, written, rfl⟩ :=
      (attempt_analyzes_eq_ok_iff fs here display commandLine analyzes result).mp attempted
    have finds := hasErrors_iff_findsError fs commandLine here analyzes reports analyzed
    rw [← finds]
    refine ⟨status_eq_one_iff reports, by simp, fun _ => ⟨here, reports, rfl, analyzed, ?_⟩⟩
    cases format : commandLine.format with
    | text =>
        rw [reportOutput, format] at written
        cases written
        exact summaryAgrees_textOutput _ reports
    | json =>
        rw [reportOutput, format] at written
        exact listingAgrees_jsonOutput reports text written
  · have status := status_of_shows fs here display commandLine analyzes result attempted
    have nothing : ¬ FindsError fs commandLine (.ok here) := fun finds => analyzes finds.1
    rw [status]
    exact ⟨⟨fun one => absurd one (by decide), fun finds => absurd finds nothing⟩,
      ⟨fun _ => nothing, fun _ => rfl⟩, fun runs => absurd runs analyzes⟩

def shelfTexts (first second : String) : List (Bytes × String) :=
  [("a.json", first), ("b.json", second), ([0xFF], first)]

def shelf (first second : String) : FileSystem := .ofTexts (shelfTexts first second) []

def nameless : Path := ⟨[Bytes.slash, 0xFF]⟩

theorem shelf_readText (first second : String) :
    (shelf first second).readText ⟨"/a.json"⟩ = .ok first ∧
      (shelf first second).readText ⟨"/b.json"⟩ = .ok second ∧
      (shelf first second).readText nameless = .ok first := by
  have names : [Bytes.ofText "a.json", "b.json", [0xFF]].Nodup ∧
      ∀ name ∈ [Bytes.ofText "a.json", "b.json", [0xFF]], Path.isName name = true := by
    decide +kernel
  have reads := FileSystem.readText_ofTexts (shelfTexts first second) [] names.1
    fun text member => names.2 text.1 (List.mem_map_of_mem (f := Prod.fst) member)
  exact ⟨(reads ⟨"/a.json"⟩ "a.json" _ (by decide +kernel) (.head _)).2,
    (reads ⟨"/b.json"⟩ "b.json" _ (by decide +kernel) (.tail _ (.head _))).2,
    (reads nameless [0xFF] _ rfl (.tail _ (.tail _ (.head _)))).2⟩

theorem loadModel_toJson (fs : FileSystem) (path : Path) (program : Program)
    (read : fs.readText path = .ok program.toJson) : loadModel fs path = .ok program := by
  simp only [loadModel, read, Program.ofJson_toJson]

theorem shelf_settings (first second : String) (format : OutputFormat) (inputs : List Path) :
    ∃ settings, Run.settings (shelf first second) { format := format, inputPaths := inputs } ⟨"/"⟩ =
      .ok (settings, ⟨"/"⟩) ∧ settings.rules = .empty := by
  have candidate : Path.join ⟨"/"⟩ ⟨configFileName⟩ = ⟨"/ibc.json"⟩ := by decide +kernel
  have unlisted : Bytes.ofText "ibc.json" ∉ [Bytes.ofText "a.json", "b.json", [0xFF]] := by
    decide +kernel
  have absent : (shelf first second).isFile ⟨"/ibc.json"⟩ = false :=
    FileSystem.isFile_ofTexts_of_absent (shelfTexts first second) [] _ "ibc.json" (by decide +kernel)
      (by decide +kernel) unlisted List.not_mem_nil
  have configures : Configures (shelf first second) { format := format, inputPaths := inputs } ⟨"/"⟩
      none {} := by
    apply Configures.empty
    simp only [Config.find, candidate, absent, Bool.false_eq_true, ↓reduceIte]
  cases checked : Settings.ofConfig {} none [] (knownRules.map Descriptor.id) with
  | error failure =>
      have accepted : (Settings.ofConfig {} none [] (knownRules.map Descriptor.id)).isOk = true := by
        decide +kernel
      rw [checked] at accepted
      cases accepted
  | ok settings =>
      refine ⟨settings, ?_, (Settings.parts_of_ofConfig _ _ _ _ _ checked).2.2⟩
      rw [settings_of_configures _ _ _ _ _ configures, checked]
      rfl

theorem shelf_models (first second : String) (settings : Settings) (paths : List Path)
    (directory : Path) (given : paths ≠ [])
    (taken : paths.Sublist [⟨"/a.json"⟩, ⟨"/b.json"⟩, nameless]) :
    Discovery.models (shelf first second) settings paths directory = .ok paths := by
  obtain ⟨left, right, last⟩ := shelf_readText first second
  have increasing : [Path.mk "/a.json", ⟨"/b.json"⟩, nameless].Pairwise fun a b => a.key < b.key := by
    decide +kernel
  apply Discovery.models_of_files _ _ _ _ given _ (increasing.sublist taken)
  intro path member
  have among := taken.subset member
  simp only [List.mem_cons, List.not_mem_nil, or_false] at among
  rcases among with rfl | rfl | rfl
  · exact (FileSystem.isFile_of_readText _ _ _ left).2
  · exact (FileSystem.isFile_of_readText _ _ _ right).2
  · exact (FileSystem.isFile_of_readText _ _ _ last).2

theorem twoFiles_error :
    ∃ diagnostic ∈ (Host.builtIn .empty).analyze Host.twoFiles, diagnostic.severity = .error := by
  have walk : (Host.violating "b").walk = [(⟨1⟩, Host.assigningX), (⟨0⟩, Host.referringX)] := by cbv
  have reached := (((Host.violating "b").mem_walk ⟨1⟩ Host.assigningX).mp (walk ▸ .head _)).2
  have violation : (⟨0, Host.violating "b", ⟨1⟩, Host.assigningX, Host.propertyX⟩ :
      ImmutableByConvention.Violation).In Host.twoFiles :=
    ⟨rfl, rfl, reached, rfl, ⟨⟨0⟩, Host.referringX, rfl, rfl, rfl, rfl, rfl⟩,
      ⟨_, rfl, _, .head _, .inl rfl⟩⟩
  rw [ImmutableByConvention.analyze_eq .empty .error rfl Host.twoFiles]
  have listed := List.mem_map_of_mem (f := ImmutableByConvention.Violation.diagnostic .error)
    ((ImmutableByConvention.mem_violations Host.twoFiles _).mpr violation)
  exact ⟨_, (Diagnostic.sort_stable _).perm.mem_iff.mpr listed, rfl⟩

def halfBroken : FileSystem := shelf Host.twoFiles.toJson "\x7b"

theorem halfBroken_loads :
    loadModel halfBroken ⟨"/a.json"⟩ = .ok Host.twoFiles ∧
      loadModel halfBroken nameless = .ok Host.twoFiles := by
  obtain ⟨left, _, last⟩ := shelf_readText Host.twoFiles.toJson "\x7b"
  exact ⟨loadModel_toJson _ _ _ left, loadModel_toJson _ _ _ last⟩

theorem halfBroken_first :
    FindsError halfBroken { inputPaths := [⟨"a.json"⟩] } (.ok ⟨"/"⟩) ∧
      ∀ failure, ¬ Stops halfBroken { inputPaths := [⟨"a.json"⟩] } (.ok ⟨"/"⟩) failure := by
  obtain ⟨settings, ready, rules⟩ :=
    shelf_settings Host.twoFiles.toJson "\x7b" .text [⟨"a.json"⟩]
  have paths : inputPaths { inputPaths := [⟨"a.json"⟩] } ⟨"/"⟩ = [⟨"/a.json"⟩] := by decide +kernel
  have found := shelf_models Host.twoFiles.toJson "\x7b" settings [⟨"/a.json"⟩] ⟨"/"⟩ (by simp)
    (by simp)
  constructor
  · rw [← paths] at found
    refine ⟨⟨rfl, rfl⟩, ⟨"/"⟩, settings, ⟨"/"⟩, _, rfl, ready, found, ⟨"/a.json"⟩, by simp [paths], _,
      halfBroken_loads.1, ?_⟩
    rw [rules]
    exact twoFiles_error
  · have analyzed := (analyze_eq_ok_iff halfBroken { inputPaths := [⟨"a.json"⟩] } ⟨"/"⟩ _).mpr
      ⟨settings, ⟨"/"⟩, [(⟨"/a.json"⟩, Host.twoFiles)], ready, by rw [paths]; exact found,
        by simp [halfBroken_loads], rfl⟩
    intro failure stops
    have failed := attempt_of_stops halfBroken ⟨"/"⟩ {} _ failure stops
    rw [attempt_of_analyzes _ _ _ _ ⟨rfl, rfl⟩, analyzed] at failed
    cases failed

theorem halfBroken_both :
    ∃ failure, Stops halfBroken { inputPaths := [⟨"a.json"⟩, ⟨"b.json"⟩] } (.ok ⟨"/"⟩) failure := by
  obtain ⟨settings, ready, rules⟩ :=
    shelf_settings Host.twoFiles.toJson "\x7b" .text [⟨"a.json"⟩, ⟨"b.json"⟩]
  have paths : inputPaths { inputPaths := [⟨"a.json"⟩, ⟨"b.json"⟩] } ⟨"/"⟩ =
      [⟨"/a.json"⟩, ⟨"/b.json"⟩] := by
    decide +kernel
  have found := shelf_models Host.twoFiles.toJson "\x7b" settings [⟨"/a.json"⟩, ⟨"/b.json"⟩] ⟨"/"⟩
    (by simp) (by simp)
  rw [← paths] at found
  obtain ⟨_, right, _⟩ := shelf_readText Host.twoFiles.toJson "\x7b"
  have unreadable : ∃ failure, loadModel halfBroken ⟨"/b.json"⟩ = .error failure := by
    cases parsed : Program.ofJson "\x7b" with
    | error e =>
        refine ⟨.modelInvalid ⟨"/b.json"⟩ e, ?_⟩
        simp only [loadModel, halfBroken, right, parsed]
    | ok program =>
        have rejected : (Program.ofJson "\x7b").isOk = false := by decide +kernel
        rw [parsed] at rejected
        cases rejected
  obtain ⟨failure, failed⟩ := unreadable
  refine ⟨failure, .reading ⟨"/"⟩ settings ⟨"/"⟩ [⟨"/a.json"⟩] [] ⟨"/b.json"⟩ failure ⟨rfl, rfl⟩ ready
    found ?_ failed⟩
  intro earlier member
  rw [List.mem_singleton.mp member]
  exact ⟨_, halfBroken_loads.1⟩

theorem halfBroken_nameless :
    Stops halfBroken { format := .json, inputPaths := [⟨[0xFF]⟩] } (.ok ⟨"/"⟩) .pathNotText := by
  obtain ⟨settings, ready, rules⟩ := shelf_settings Host.twoFiles.toJson "\x7b" .json [⟨[0xFF]⟩]
  have paths : inputPaths { format := .json, inputPaths := [⟨[0xFF]⟩] } ⟨"/"⟩ = [nameless] := by
    decide +kernel
  have found := shelf_models Host.twoFiles.toJson "\x7b" settings [nameless] ⟨"/"⟩ (by simp) (by simp)
  rw [← paths] at found
  have reported : (Host.builtIn settings.rules).analyze Host.twoFiles ≠ [] := by
    obtain ⟨diagnostic, inside, _⟩ := twoFiles_error
    rw [rules]
    exact List.ne_nil_of_mem inside
  have notText : ∀ text : String, nameless.bytes ≠ text := by
    intro text named
    cases ((Bytes.text?_eq_some_iff _ text).mpr named).symm.trans
      (by decide +kernel : nameless.bytes.text? = none)
  refine .listing ⟨"/"⟩ settings ⟨"/"⟩ _ nameless Host.twoFiles ⟨rfl, rfl⟩ rfl ready found ?_
    (by simp [paths]) halfBroken_loads.2 reported notText
  intro other member
  rw [paths] at member
  rw [List.mem_singleton.mp member]
  exact ⟨_, halfBroken_loads.2⟩

/-- Alone, the first model is reported; with one after it that cannot be read, nothing is printed. The
last can be read, but a listing cannot name it. Without a current directory not even the rules are
shown. -/
theorem halfBroken_statuses :
    CommandLine.parse ["a.json"] = .ok { inputPaths := [⟨"a.json"⟩] } ∧
      (execute halfBroken (.ok ⟨"/"⟩) {} ["a.json"]).status = 1 ∧
      CommandLine.parse ["a.json", "b.json"] = .ok { inputPaths := [⟨"a.json"⟩, ⟨"b.json"⟩] } ∧
      (execute halfBroken (.ok ⟨"/"⟩) {} ["a.json", "b.json"]).status = 2 ∧
      (execute halfBroken (.ok ⟨"/"⟩) {} ["a.json", "b.json"]).output = "" ∧
      CommandLine.parse ["--format", "json", [0xFF]] =
        .ok { format := .json, inputPaths := [⟨[0xFF]⟩] } ∧
      execute halfBroken (.ok ⟨"/"⟩) {} ["--format", "json", [0xFF]] =
        { status := 2, complaint := "error: path contains invalid UTF-8 characters\n" } ∧
      CommandLine.parse ["--list-rules"] = .ok { listRules := true } ∧
      execute halfBroken (.error .notFound) {} ["--list-rules"] =
        { status := 2
          complaint := "error: failed to resolve current directory: No such file or directory (os error 2)\n" } := by
  have single : CommandLine.parse ["a.json"] = .ok { inputPaths := [⟨"a.json"⟩] } := by decide +kernel
  have both : CommandLine.parse ["a.json", "b.json"] =
      .ok { inputPaths := [⟨"a.json"⟩, ⟨"b.json"⟩] } := by decide +kernel
  have listing : CommandLine.parse ["--format", "json", [0xFF]] =
      .ok { format := .json, inputPaths := [⟨[0xFF]⟩] } := by decide +kernel
  have rules : CommandLine.parse ["--list-rules"] = .ok { listRules := true } := by decide +kernel
  obtain ⟨failure, stops⟩ := halfBroken_both
  obtain ⟨finds, passes⟩ := halfBroken_first
  have first := (execute_status_agrees halfBroken (.ok ⟨"/"⟩) {} _ _ single).2 passes
  have second := (execute_status_agrees halfBroken (.ok ⟨"/"⟩) {} _ _ both).1 failure stops
  have unnamed := (execute_status_agrees halfBroken (.ok ⟨"/"⟩) {} _ _ listing).1 _ halfBroken_nameless
  have nowhere := (execute_status_agrees halfBroken (.error .notFound) {} _ _ rules).1 _
    (.directory .notFound)
  exact ⟨single, first.1.mpr finds, both, by rw [second], by rw [second], listing, unnamed, rules,
    nowhere⟩

end ConventionLint.Run
