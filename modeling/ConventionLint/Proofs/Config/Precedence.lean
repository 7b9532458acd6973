import ConventionLint.Proofs.Config.Loading
import ConventionLint.Proofs.Config.Validation
import ConventionLint.Proofs.FileSystem.Following
import ConventionLint.Proofs.Host.Registration
import ConventionLint.Rules.ImmutableByConvention

/-!
Which severity a rule gets, from the files of a chain and the overrides to what a host reports.

Loading a chain that ends puts each configuration on top of what it extends. So what is said of a rule
is what the nearest configuration says, whether it has other rules or none; an override comes before
all of them, and the last override of a rule before the others. A host reports the rule with just
that severity, or not at all if it is off.
-/
namespace ConventionLint

namespace Config

/-- A chain that ends: the last configuration names no base, and no file comes twice. -/
structure Ends (fs : FileSystem) (start : Path) (links : List Link) (last : Link) : Prop where
  leads : Leads fs start links last.path
  apart : Apart fs [] (links ++ [last])
  read : ∃ text, fs.readText last.path = .ok text ∧ ofText text = .ok last.config
  unnamed : last.config.base = none

theorem loadFrom_read (fs : FileSystem) (visited : List Path) (path : Path) (text : String)
    (config : Config) (fresh : ¬ Revisits fs visited path) (read : fs.readText path = .ok text)
    (parsed : ofText text = .ok config) :
    loadFrom fs visited path =
      match config.base with
      | none => .ok config
      | some base => (basePath path base).bind fun next =>
        (loadFrom fs (fs.canonical path :: visited) next).map config.onTopOf := by
  rw [revisits_iff] at fresh
  obtain ⟨location, located, found⟩ := fs.locate_of_readText path text read
  rw [loadFrom, dif_neg fresh]
  split
  · next e failed => cases located.symm.trans failed
  · next place here =>
      cases located.symm.trans here
      split
      · next e failed => cases found.symm.trans failed
      · next content again =>
          cases found.symm.trans again
          simp only [parsed]
          cases config.base with
          | none => rfl
          | some base =>
              dsimp only
              cases basePath path base with
              | error e => rfl
              | ok next =>
                  dsimp only [Except.bind]
                  cases loadFrom fs (fs.canonical path :: visited) next with
                  | error e => rfl
                  | ok below => rfl

theorem loadFrom_chain (fs : FileSystem) (visited : List Path) (start : Path) (links : List Link)
    (last : Link) (leads : Leads fs start links last.path)
    (apart : Apart fs visited (links ++ [last]))
    (read : ∃ text, fs.readText last.path = .ok text ∧ ofText text = .ok last.config)
    (unnamed : last.config.base = none) :
    loadFrom fs visited start =
      .ok ((links.map Link.config).foldr Config.onTopOf last.config) := by
  generalize target : last.path = final at leads
  induction leads generalizing visited with
  | stay path =>
      subst target
      obtain ⟨text, found, parsed⟩ := read
      rw [loadFrom_read fs visited last.path text last.config apart.1 found parsed, unnamed]
      rfl
  | step path next final text base config links found parsed named resolved leads ih =>
      rw [loadFrom_read fs visited path text config apart.1 found parsed, named]
      have below := ih (fs.canonical path :: visited) apart.2 target
      simp only [resolved, Except.bind, below]
      rfl

theorem Ends.load (fs : FileSystem) (start : Path) (links : List Link) (last : Link)
    (ends : Ends fs start links last) :
    load fs start = .ok ((links.map Link.config).foldr Config.onTopOf last.config) :=
  loadFrom_chain fs [] start links last ends.leads ends.apart ends.read ends.unnamed

theorem severity_foldr (configs : List Config) (last : Config) (id : String) :
    (configs.foldr Config.onTopOf last).severity? id =
      (configs ++ [last]).findSome? fun config => config.severity? id := by
  induction configs with
  | nil =>
      rw [List.nil_append, List.findSome?_singleton]
      rfl
  | cons config configs ih =>
      rw [List.foldr_cons, severity_onTopOf, ih, List.cons_append, List.findSome?_cons]
      cases config.severity? id with
      | none => rfl
      | some severity => rfl

end Config

/-- The severity that comes first: that of the last override of the rule, else what the nearest
configuration says of it, else the default. -/
def RuleSeverity.preferred (overrides : List RuleOverride) (configs : List Config) (id : String) :
    RuleSeverity :=
  match overrides.reverse.find? fun rule => rule.id = id with
  | some rule => rule.severity
  | none => (configs.findSome? fun config => config.severity? id).getD .byDefault

namespace Settings

theorem lookup_overrides (overrides : List RuleOverride) (id : String) :
    (overrides.map fun rule => (rule.id, rule.severity)).lookup id =
      (overrides.find? fun rule => rule.id = id).map RuleOverride.severity := by
  induction overrides with
  | nil => rfl
  | cons rule overrides ih =>
      by_cases same : rule.id = id
      · simp [same]
      · rw [List.map_cons, List.lookup_cons, beq_eq_false_iff_ne.mpr (Ne.symm same), ih,
          List.find?_cons_of_neg (by simpa using same)]

theorem get_rules (config : Config) (configPath : Option Path) (overrides : List RuleOverride)
    (known : List String) (settings : Settings)
    (checked : ofConfig config configPath overrides known = .ok settings) (id : String) :
    settings.rules.get? id =
      ((overrides.reverse.find? fun rule => rule.id = id).map RuleOverride.severity).or
        (config.severity? id) := by
  obtain ⟨_, _, rules⟩ := parts_of_ofConfig config configPath overrides known settings checked
  rw [rules, Config.overridden, RuleMap.get_insertAll, ← List.map_reverse, lookup_overrides]
  congr 1
  unfold Config.severity?
  cases config.rules with
  | none => rfl
  | some rules => rfl

theorem configured_eq_preferred (fs : FileSystem) (start : Path) (links : List Config.Link)
    (last : Config.Link) (ends : Config.Ends fs start links last) (config : Config)
    (loaded : Config.load fs start = .ok config) (configPath : Option Path)
    (overrides : List RuleOverride) (known : List String) (settings : Settings)
    (checked : ofConfig config configPath overrides known = .ok settings) (id : String) :
    settings.rules.configured id =
      .preferred overrides ((links ++ [last]).map Config.Link.config) id := by
  cases loaded.symm.trans ends.load
  rw [RuleMap.configured, get_rules _ configPath overrides known settings checked,
    Config.severity_foldr, List.map_append, RuleSeverity.preferred]
  cases overrides.reverse.find? fun rule => rule.id = id with
  | none => rfl
  | some rule => rfl

end Settings

namespace Host

/-- The host reports a rule with a severity, or not at all if there is none. Nothing is shown with
another severity, and what an analyzer of the rule reports of it is shown. -/
structure ReportsWith (host : Host) (descriptor : Descriptor) (severity : Option Severity) :
    Prop where
  graded : ∀ program, ∀ shown ∈ host.analyze program, shown.id = descriptor.id →
    severity = some shown.severity
  complete : ∀ level, severity = some level → ∀ analyzer ∈ host.analyzers,
    descriptor ∈ analyzer.descriptors → ∀ program, ∀ file ∈ program.files, ∀ visit ∈ file.walk,
      ∀ raw ∈ analyzer.reportAt ⟨program, file, visit.1, visit.2⟩, raw.id = descriptor.id →
        { raw with severity := level } ∈ host.analyze program

theorem mem_analyze (host : Host) (program : Program) (shown : Diagnostic) :
    shown ∈ host.analyze program ↔
      ∃ file ∈ program.files, ∃ raw ∈ report host.table program file,
        host.grade raw = some shown := by
  have perm := (Diagnostic.sort_stable (program.files.flatMap (host.analyzeFile program))).perm
  rw [analyze_eq_sort, perm.mem_iff, List.mem_flatMap]
  simp only [analyzeFile, List.mem_filterMap]

theorem grade_of_descriptor (host : Host) (descriptor : Descriptor)
    (known : host.descriptor? descriptor.id = some descriptor) (raw : Diagnostic)
    (same : raw.id = descriptor.id) :
    host.grade raw = (host.rules.effective descriptor).map raw.withSeverity := by
  rw [grade, same, known]

theorem reportsWith_effective (host : Host) (descriptor : Descriptor)
    (known : host.descriptor? descriptor.id = some descriptor) :
    host.ReportsWith descriptor (host.rules.effective descriptor) := by
  constructor
  · intro program shown member same
    obtain ⟨file, _, raw, _, graded⟩ := (host.mem_analyze program shown).mp member
    have ids := congrArg (fun key => (ofLex (ofLex (ofLex key).2).2).2)
      (host.key_of_grade raw shown graded)
    have rawId : raw.id = descriptor.id := ids.symm.trans same
    rw [host.grade_of_descriptor descriptor known raw rawId] at graded
    obtain ⟨level, on, rfl⟩ := Option.map_eq_some_iff.mp graded
    exact on
  · intro level on analyzer listed supported program file inside visit walked raw reported same
    have enabled : analyzer.isEnabled host.rules = true := by
      apply List.any_eq_true.mpr
      exact ⟨descriptor, supported, by rw [on]; rfl⟩
    have registered : raw ∈ report host.table program file := by
      change raw ∈ report (registerAll _) program file
      rw [report_registerAll]
      apply List.mem_flatMap.mpr
      refine ⟨visit, walked, List.mem_flatMap.mpr ⟨analyzer, ?_, reported⟩⟩
      exact List.mem_filter.mpr ⟨listed, enabled⟩
    have graded : host.grade raw = some { raw with severity := level } := by
      rw [host.grade_of_descriptor descriptor known raw same, on]
      rfl
    exact (host.mem_analyze program _).mpr ⟨file, inside, raw, registered, graded⟩

end Host

namespace Config

/-- A chain of configurations that ends is loaded. Whatever overrides are put on top of it, if the
settings are accepted then every rule has the severity that comes first, and a host under these
settings reports each rule that it knows with what this severity makes of the rule. -/
theorem load_reports_preferred (fs : FileSystem) (start : Path) (links : List Link) (last : Link)
    (ends : Ends fs start links last) :
    ∃ config, load fs start = .ok config ∧
      ∀ (configPath : Option Path) (overrides : List RuleOverride) (known : List String)
        (settings : Settings),
        Settings.ofConfig config configPath overrides known = .ok settings →
        ∀ descriptor : Descriptor,
          let severity := (RuleSeverity.preferred overrides ((links ++ [last]).map Link.config)
            descriptor.id).resolve descriptor
          settings.rules.effective descriptor = severity ∧
            ∀ host : Host, host.rules = settings.rules →
              host.descriptor? descriptor.id = some descriptor →
              host.ReportsWith descriptor severity := by
  refine ⟨_, ends.load, ?_⟩
  intro configPath overrides known settings checked descriptor severity
  have effective : settings.rules.effective descriptor = severity := by
    rw [RuleMap.effective, Settings.configured_eq_preferred fs start links last ends _ ends.load
      configPath overrides known settings checked]
  refine ⟨effective, ?_⟩
  intro host rules supported
  rw [← effective, ← rules]
  exact host.reportsWith_effective descriptor supported

theorem basePath_eq_ok (path directory : Path) (base : String)
    (parent : path.parent? = some directory) :
    basePath path base = .ok (directory.join (Path.withExtension ⟨base⟩ "json")) := by
  rw [basePath, parent]

def layeredTexts : List (Bytes × String) :=
  [("ibc.json", "\x7bextends:'mid',include:[]\x7d"),
    ("mid.json", "\x7bextends:'base',rules:\x7bIBC1000:'default'\x7d\x7d"),
    ("base.json", "\x7brules:\x7bIBC1000:'none'\x7d\x7d")]

def layered : FileSystem := .ofTexts layeredTexts []

def layeredLinks : List Link :=
  [⟨⟨"/ibc.json"⟩, { base := some "mid", included := some [] }⟩,
    ⟨⟨"/mid.json"⟩, { base := some "base", rules := some (RuleMap.empty.insert "IBC1000" .byDefault) }⟩]

def layeredLast : Link := ⟨⟨"/base.json"⟩, { rules := some (RuleMap.empty.insert "IBC1000" .off) }⟩

theorem layered_ends : Ends layered ⟨"/ibc.json"⟩ layeredLinks layeredLast := by
  have toMid : basePath ⟨"/ibc.json"⟩ "mid" = .ok ⟨"/mid.json"⟩ := by
    rw [basePath_eq_ok _ ⟨"/"⟩ _ (by decide +kernel)]
    congr 1
  have toBase : basePath ⟨"/mid.json"⟩ "base" = .ok ⟨"/base.json"⟩ := by
    rw [basePath_eq_ok _ ⟨"/"⟩ _ (by decide +kernel)]
    congr 1
  have reads := FileSystem.readText_ofTexts layeredTexts [] (by decide +kernel) (by decide +kernel)
  obtain ⟨first, top⟩ := reads ⟨"/ibc.json"⟩ "ibc.json" _ (by decide +kernel) (.head _)
  obtain ⟨second, mid⟩ := reads ⟨"/mid.json"⟩ "mid.json" _ (by decide +kernel)
    (.tail _ (.head _))
  obtain ⟨third, base⟩ := reads ⟨"/base.json"⟩ "base.json" _ (by decide +kernel)
    (.tail _ (.tail _ (.head _)))
  refine ⟨?_, ⟨?_, ?_, ?_, trivial⟩, ⟨_, base, by decide +kernel⟩, rfl⟩
  · exact .step _ _ _ _ "mid" _ _ top (by decide +kernel) rfl toMid
      (.step _ _ _ _ "base" _ _ mid (by decide +kernel) rfl toBase (.stay _))
  · rw [revisits_iff]
    exact Bool.false_ne_true
  · rw [revisits_iff]
    simp only [layered, Link.canonical, first, second]
    decide +kernel
  · rw [revisits_iff]
    simp only [layered, layeredLast, Link.canonical, first, second, third]
    decide +kernel

theorem layered_reports :
    Ends layered ⟨"/ibc.json"⟩ layeredLinks layeredLast ∧
      ∃ config, load layered ⟨"/ibc.json"⟩ = .ok config ∧
        (∃ settings, Settings.ofConfig config none [] ["IBC1000"] = .ok settings ∧
          (Host.builtIn settings.rules).ReportsWith ImmutableByConvention.descriptor
            (some .error)) ∧
        ∃ settings, Settings.ofConfig config none [⟨"IBC1000", .off⟩, ⟨"IBC1000", .hidden⟩]
            ["IBC1000"] = .ok settings ∧
          (Host.builtIn settings.rules).ReportsWith ImmutableByConvention.descriptor
            (some .hidden) := by
  obtain ⟨config, loaded, reports⟩ := load_reports_preferred _ _ _ _ layered_ends
  refine ⟨layered_ends, config, loaded, ?_⟩
  cases loaded.symm.trans layered_ends.load
  refine ⟨⟨_, rfl, ?_⟩, ⟨_, rfl, ?_⟩⟩
  · have plain := reports none [] ["IBC1000"] _ rfl ImmutableByConvention.descriptor
    exact plain.2 (.builtIn _) rfl rfl
  · have overridden := reports none [⟨"IBC1000", .off⟩, ⟨"IBC1000", .hidden⟩] ["IBC1000"] _ rfl
      ImmutableByConvention.descriptor
    exact overridden.2 (.builtIn _) rfl rfl

end Config

end ConventionLint
