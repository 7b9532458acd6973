import ConventionLint.Proofs.Stages
import ConventionLint.Proofs.Text.Bytes
import ConventionLint.Run

/-!
The stages of a run.

The current directory is asked for, the configuration is looked up, loaded and checked, the models are
found, each of them is read, and the diagnostics are listed. A run is there exactly if no stage fails;
otherwise the first stage that fails decides the failure. An analysis has a report of each model, made
of that model alone.
-/
namespace ConventionLint.Run

def Analyzes (commandLine : CommandLine) : Prop :=
  commandLine.listRules = false ∧ commandLine.showConfig = false

/-- The configuration of a run: the one that is found, or the empty one if there is none. -/
inductive Configures (fs : FileSystem) (commandLine : CommandLine) (cwd : Path) :
    Option Path → Config → Prop
  | empty (found : Config.find fs commandLine.projectPath cwd = .ok none) :
      Configures fs commandLine cwd none {}
  | loaded (path : Path) (config : Config)
      (found : Config.find fs commandLine.projectPath cwd = .ok (some path))
      (loaded : Config.load fs path = .ok config) :
      Configures fs commandLine cwd (some path) config

/-- The stages at which a run can fail. Without a current directory it fails whatever it is to do, and
to list rules it needs no more than that. -/
inductive Stops (fs : FileSystem) (commandLine : CommandLine) :
    Except FileError Path → Failure → Prop
  | directory (e : FileError) : Stops fs commandLine (.error e) (.noCurrentDirectory e)
  | lookup (cwd : Path) (failure : Failure) (runs : commandLine.listRules = false)
      (failed : Config.find fs commandLine.projectPath cwd = .error failure) :
      Stops fs commandLine (.ok cwd) failure
  | loading (cwd path : Path) (failure : Failure) (runs : commandLine.listRules = false)
      (found : Config.find fs commandLine.projectPath cwd = .ok (some path))
      (failed : Config.load fs path = .error failure) : Stops fs commandLine (.ok cwd) failure
  | checking (cwd : Path) (configPath : Option Path) (config : Config) (failure : Failure)
      (runs : commandLine.listRules = false)
      (configures : Configures fs commandLine cwd configPath config)
      (failed : Settings.ofConfig config configPath commandLine.rules
        (knownRules.map Descriptor.id) = .error failure) : Stops fs commandLine (.ok cwd) failure
  | discovery (cwd : Path) (settings : Settings) (directory : Path) (failure : Failure)
      (analyzes : Analyzes commandLine)
      (ready : Run.settings fs commandLine cwd = .ok (settings, directory))
      (failed : Discovery.models fs settings (inputPaths commandLine cwd) directory =
        .error failure) : Stops fs commandLine (.ok cwd) failure
  | reading (cwd : Path) (settings : Settings) (directory : Path) (before after : List Path)
      (path : Path) (failure : Failure) (analyzes : Analyzes commandLine)
      (ready : Run.settings fs commandLine cwd = .ok (settings, directory))
      (found : Discovery.models fs settings (inputPaths commandLine cwd) directory =
        .ok (before ++ path :: after))
      (passed : ∀ earlier ∈ before, ∃ program, loadModel fs earlier = .ok program)
      (failed : loadModel fs path = .error failure) : Stops fs commandLine (.ok cwd) failure
  | listing (cwd : Path) (settings : Settings) (directory : Path) (paths : List Path) (path : Path)
      (program : Program) (analyzes : Analyzes commandLine) (format : commandLine.format = .json)
      (ready : Run.settings fs commandLine cwd = .ok (settings, directory))
      (found : Discovery.models fs settings (inputPaths commandLine cwd) directory = .ok paths)
      (passed : ∀ other ∈ paths, ∃ program, loadModel fs other = .ok program)
      (member : path ∈ paths) (loaded : loadModel fs path = .ok program)
      (reported : (Host.builtIn settings.rules).analyze program ≠ [])
      (notText : ∀ text : String, path.bytes ≠ text) : Stops fs commandLine (.ok cwd) .pathNotText

def reportOf (host : Host) (path : Path) (program : Program) : ModelReport where
  path := path
  diagnostics := host.analyze program
  sources := program.files.filterMap fun file => file.text.map fun text => (file.name, text)

/-- The run analyzes models, and an error is reported in one of those that it finds. -/
def FindsError (fs : FileSystem) (commandLine : CommandLine) (cwd : Except FileError Path) : Prop :=
  Analyzes commandLine ∧ ∃ here settings directory paths, cwd = .ok here ∧
    Run.settings fs commandLine here = .ok (settings, directory) ∧
    Discovery.models fs settings (inputPaths commandLine here) directory = .ok paths ∧
    ∃ path ∈ paths, ∃ program, loadModel fs path = .ok program ∧
      ∃ diagnostic ∈ (Host.builtIn settings.rules).analyze program, diagnostic.severity = .error

section Stages

variable (fs : FileSystem) (commandLine : CommandLine) (cwd : Path)

theorem settings_of_configures (configPath : Option Path) (config : Config)
    (configures : Configures fs commandLine cwd configPath config) :
    settings fs commandLine cwd =
      (Settings.ofConfig config configPath commandLine.rules (knownRules.map Descriptor.id)).map
        fun settings => (settings, (configPath.bind Path.parent?).getD cwd) := by
  cases configures with
  | empty found =>
      rw [settings, found]
      rfl
  | loaded path config found loaded =>
      simp only [settings, found, loaded, bind, Except.bind]
      rfl

theorem stops_of_settings (runs : commandLine.listRules = false) (failure : Failure)
    (failed : settings fs commandLine cwd = .error failure) :
    Stops fs commandLine (.ok cwd) failure := by
  have checked : ∀ configPath config, Configures fs commandLine cwd configPath config →
      Stops fs commandLine (.ok cwd) failure := by
    intro configPath config configures
    rw [settings_of_configures fs commandLine cwd configPath config configures,
      map_eq_error_iff] at failed
    exact .checking cwd configPath config failure runs configures failed
  cases found : Config.find fs commandLine.projectPath cwd with
  | error other =>
      rw [settings, found] at failed
      cases failed
      exact .lookup cwd failure runs found
  | ok configPath =>
      cases configPath with
      | none => exact checked none {} (.empty found)
      | some path =>
          cases loaded : Config.load fs path with
          | error other =>
              simp only [settings, found, loaded, bind, Except.bind] at failed
              cases failed
              exact .loading cwd path failure runs found loaded
          | ok config => exact checked (some path) config (.loaded path config found loaded)

theorem analyze_of_settings (settings : Settings) (directory : Path)
    (ready : Run.settings fs commandLine cwd = .ok (settings, directory)) :
    analyze fs commandLine cwd =
      Discovery.models fs settings (inputPaths commandLine cwd) directory >>=
        analyzeModels fs (Host.builtIn settings.rules) := by
  rw [analyze, ready]
  rfl

theorem analyzeModel_eq_ok_iff (host : Host) (path : Path) (report : ModelReport) :
    analyzeModel fs host path = .ok report ↔
      ∃ program, loadModel fs path = .ok program ∧ reportOf host path program = report :=
  map_eq_ok_iff _ _ _

theorem analyzeModels_eq_ok_iff (host : Host) (paths : List Path) (reports : List ModelReport) :
    analyzeModels fs host paths = .ok reports ↔ ∃ models : List (Path × Program),
      paths = models.map Prod.fst ∧ (∀ model ∈ models, loadModel fs model.1 = .ok model.2) ∧
        reports = models.map fun model => reportOf host model.1 model.2 := by
  rw [analyzeModels, mapM_eq_ok_iff]
  constructor
  · intro passed
    induction passed with
    | nil => exact ⟨[], rfl, by simp, rfl⟩
    | @cons path report paths reports first rest ih =>
        obtain ⟨program, loaded, rfl⟩ := (analyzeModel_eq_ok_iff fs host path report).mp first
        obtain ⟨models, rfl, loads, rfl⟩ := ih
        refine ⟨(path, program) :: models, rfl, ?_, rfl⟩
        intro model member
        rcases List.mem_cons.mp member with rfl | later
        · exact loaded
        · exact loads model later
  · rintro ⟨models, rfl, loads, rfl⟩
    rw [List.forall₂_map_left_iff, List.forall₂_map_right_iff, List.forall₂_same]
    intro model member
    exact (analyzeModel_eq_ok_iff fs host _ _).mpr ⟨model.2, loads model member, rfl⟩

theorem analyze_eq_ok_iff (reports : List ModelReport) :
    analyze fs commandLine cwd = .ok reports ↔
      ∃ (settings : Settings) (directory : Path) (models : List (Path × Program)),
        Run.settings fs commandLine cwd = .ok (settings, directory) ∧
        Discovery.models fs settings (inputPaths commandLine cwd) directory =
          .ok (models.map Prod.fst) ∧
        (∀ model ∈ models, loadModel fs model.1 = .ok model.2) ∧
        reports = models.map fun model => reportOf (Host.builtIn settings.rules) model.1 model.2 := by
  constructor
  · intro analyzed
    have parts := analyzed
    rw [analyze, bind_eq_ok_iff] at parts
    obtain ⟨⟨settings, directory⟩, ready, _⟩ := parts
    rw [analyze_of_settings fs commandLine cwd settings directory ready, bind_eq_ok_iff] at analyzed
    obtain ⟨paths, found, read⟩ := analyzed
    obtain ⟨models, rfl, loads, rfl⟩ := (analyzeModels_eq_ok_iff fs _ _ _).mp read
    exact ⟨settings, directory, models, ready, found, loads, rfl⟩
  · rintro ⟨settings, directory, models, ready, found, loads, rfl⟩
    rw [analyze_of_settings fs commandLine cwd settings directory ready, bind_eq_ok_iff]
    exact ⟨_, found, (analyzeModels_eq_ok_iff fs _ _ _).mpr ⟨models, rfl, loads, rfl⟩⟩

theorem stops_of_analyze (analyzes : Analyzes commandLine) (failure : Failure)
    (failed : analyze fs commandLine cwd = .error failure) :
    Stops fs commandLine (.ok cwd) failure := by
  cases ready : settings fs commandLine cwd with
  | error other =>
      rw [analyze, ready] at failed
      cases failed
      exact stops_of_settings fs commandLine cwd analyzes.1 failure ready
  | ok result =>
      obtain ⟨settings, directory⟩ := result
      rw [analyze_of_settings fs commandLine cwd settings directory ready,
        bind_eq_error_iff] at failed
      rcases failed with undiscovered | ⟨paths, found, failed⟩
      · exact .discovery cwd settings directory failure analyzes ready undiscovered
      · obtain ⟨before, path, after, rfl, passed, failed⟩ :=
          (mapM_eq_error_iff _ _ _).mp failed
        have earlierPrograms : ∀ earlier ∈ before, ∃ program, loadModel fs earlier = .ok program := by
          intro earlier member
          obtain ⟨report, analyzed⟩ := passed earlier member
          obtain ⟨program, loaded, _⟩ := (analyzeModel_eq_ok_iff fs _ earlier report).mp analyzed
          exact ⟨program, loaded⟩
        exact .reading cwd settings directory before after path failure analyzes ready found
          earlierPrograms ((map_eq_error_iff _ _ _).mp failed)

theorem analyze_of_unread (settings : Settings) (directory : Path) (before after : List Path)
    (path : Path) (failure : Failure)
    (ready : Run.settings fs commandLine cwd = .ok (settings, directory))
    (found : Discovery.models fs settings (inputPaths commandLine cwd) directory =
      .ok (before ++ path :: after))
    (passed : ∀ earlier ∈ before, ∃ program, loadModel fs earlier = .ok program)
    (failed : loadModel fs path = .error failure) :
    analyze fs commandLine cwd = .error failure := by
  rw [analyze_of_settings fs commandLine cwd settings directory ready, found]
  refine (mapM_eq_error_iff _ _ _).mpr ⟨before, path, after, rfl, ?_, ?_⟩
  · intro earlier member
    obtain ⟨program, loaded⟩ := passed earlier member
    exact ⟨_, (analyzeModel_eq_ok_iff fs _ earlier _).mpr ⟨program, loaded, rfl⟩⟩
  · exact (map_eq_error_iff _ _ _).mpr failed

theorem analyze_of_loads (settings : Settings) (directory : Path) (paths : List Path)
    (ready : Run.settings fs commandLine cwd = .ok (settings, directory))
    (found : Discovery.models fs settings (inputPaths commandLine cwd) directory = .ok paths)
    (passed : ∀ path ∈ paths, ∃ program, loadModel fs path = .ok program) :
    ∃ models : List (Path × Program), paths = models.map Prod.fst ∧
      (∀ model ∈ models, loadModel fs model.1 = .ok model.2) ∧
      analyze fs commandLine cwd = .ok
        (models.map fun model => reportOf (Host.builtIn settings.rules) model.1 model.2) := by
  have each : ∃ models : List (Path × Program), paths = models.map Prod.fst ∧
      ∀ model ∈ models, loadModel fs model.1 = .ok model.2 := by
    clear found
    induction paths with
    | nil => exact ⟨[], rfl, by simp⟩
    | cons path paths ih =>
        obtain ⟨program, loaded⟩ := passed path List.mem_cons_self
        obtain ⟨models, rfl, loads⟩ := ih fun other later => passed other (List.mem_cons_of_mem path later)
        exact ⟨(path, program) :: models, rfl, List.forall_mem_cons.mpr ⟨loaded, loads⟩⟩
  obtain ⟨models, rfl, loads⟩ := each
  exact ⟨models, rfl, loads, (analyze_eq_ok_iff fs commandLine cwd _).mpr
    ⟨settings, directory, models, ready, found, loads, rfl⟩⟩

theorem hasErrors_iff (reports : List ModelReport) :
    hasErrors reports = true ↔
      ∃ report ∈ reports, ∃ diagnostic ∈ report.diagnostics, diagnostic.severity = .error := by
  simp [hasErrors, diagnostics]

theorem hasErrors_iff_findsError (analyzes : Analyzes commandLine) (reports : List ModelReport)
    (analyzed : analyze fs commandLine cwd = .ok reports) :
    hasErrors reports = true ↔ FindsError fs commandLine (.ok cwd) := by
  obtain ⟨settings, directory, models, ready, found, loads, rfl⟩ :=
    (analyze_eq_ok_iff fs commandLine cwd reports).mp analyzed
  rw [hasErrors_iff]
  constructor
  · rintro ⟨_, member, error⟩
    obtain ⟨model, listed, rfl⟩ := List.mem_map.mp member
    exact ⟨analyzes, cwd, settings, directory, _, rfl, ready, found, model.1,
      List.mem_map_of_mem listed, model.2, loads model listed, error⟩
  · rintro ⟨_, here, settings', directory', paths, there, ready', found', path, member, program, loaded,
      error⟩
    cases there
    cases ready.symm.trans ready'
    cases found.symm.trans found'
    obtain ⟨model, listed, rfl⟩ := List.mem_map.mp member
    cases (loads model listed).symm.trans loaded
    exact ⟨_, List.mem_map_of_mem listed, error⟩

end Stages

section Listing

/-- Two of the reports and the models of a listing belong together if both have the same diagnostics
and the path of the one is the text of the other. -/
theorem listed_eq_ok_iff (reports : List ModelReport) (models : List (String × List Diagnostic)) :
    listed reports = .ok models ↔ List.Forall₂
      (fun report model => report.path.bytes = Bytes.ofText model.1 ∧ model.2 = report.diagnostics)
      (reports.filter fun report => !report.diagnostics.isEmpty) models := by
  rw [listed, mapM_eq_ok_iff]
  apply iff_of_eq
  congr 1
  funext report model
  obtain ⟨text, diagnostics⟩ := model
  rw [← Bytes.text?_eq_some_iff]
  cases report.path.bytes.text? with
  | none => simp
  | some other => simp [eq_comm]

def Listable (reports : List ModelReport) : Prop :=
  ∀ report ∈ reports, report.diagnostics ≠ [] → ∃ text : String, report.path.bytes = text

theorem listable_of_listed (reports : List ModelReport) (models : List (String × List Diagnostic))
    (listed : Run.listed reports = .ok models) : Listable reports := by
  intro report member reported
  have kept : report ∈ reports.filter fun report => !report.diagnostics.isEmpty :=
    List.mem_filter.mpr ⟨member, by simpa using reported⟩
  obtain ⟨model, _, named, _⟩ :=
    exists_mem_of_forall₂ ((listed_eq_ok_iff reports models).mp listed) report kept
  exact ⟨model.1, named⟩

theorem not_listable_of_listed (reports : List ModelReport) (failure : Failure)
    (failed : listed reports = .error failure) : ¬ Listable reports ∧ failure = .pathNotText := by
  obtain ⟨before, report, after, split, _, failed⟩ := (mapM_eq_error_iff _ _ _).mp failed
  have kept : report ∈ reports.filter fun report => !report.diagnostics.isEmpty :=
    split ▸ List.mem_append_right before List.mem_cons_self
  obtain ⟨member, reported⟩ := List.mem_filter.mp kept
  cases shown : report.path.bytes.text? with
  | some text =>
      rw [shown] at failed
      cases failed
  | none =>
      rw [shown] at failed
      cases failed
      refine ⟨fun listable => ?_, rfl⟩
      obtain ⟨text, named⟩ := listable report member (by simpa using reported)
      cases shown.symm.trans ((Bytes.text?_eq_some_iff _ text).mpr named)

theorem listed_eq_error_iff (reports : List ModelReport) (failure : Failure) :
    listed reports = .error failure ↔ ¬ Listable reports ∧ failure = .pathNotText := by
  constructor
  · exact not_listable_of_listed reports failure
  · rintro ⟨unlistable, rfl⟩
    cases outcome : listed reports with
    | ok models => exact absurd (listable_of_listed reports models outcome) unlistable
    | error other => rw [(not_listable_of_listed reports other outcome).2]

end Listing

end ConventionLint.Run
