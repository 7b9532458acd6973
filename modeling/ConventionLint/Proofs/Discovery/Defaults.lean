import ConventionLint.Proofs.Config.Precedence
import ConventionLint.Proofs.Discovery.Patterns
import ConventionLint.Proofs.Glob.Suffix

namespace ConventionLint

def Glob.defaultPattern : Pattern :=
  ⟨"**/*.model.json", .leadingDirs :: .star :: ".model.json".toList.map Token.literal⟩

theorem Glob.parseAll_default : parseAll Settings.defaultPatterns = .ok [defaultPattern] := by
  have text : "**/*.model.json" =
      String.ofList ('*' :: '*' :: '/' :: '*' :: ".model.json".toList) := rfl
  have parsed : Pattern.parse "**/*.model.json" = .ok defaultPattern := by
    rw [defaultPattern, text]
    exact parse_suffix _ (by simp [special])
  rw [Settings.defaultPatterns, parseAll, parsed]
  rfl

/-- The default pattern is judged by the end of a path alone. -/
theorem Glob.isMatch_default (path : Bytes) :
    defaultPattern.isMatch path = true ↔ Bytes.ofText ".model.json" <:+ path := by
  have whole : judgedByName defaultPattern.tokens = false := by decide
  rw [Pattern.isMatch, whole, Bool.not_false, Bool.true_or, Bool.true_and, defaultPattern,
    covers_iff_suffix]
  rfl

namespace Config

def Patternless (config : Config) : Prop := config.included = none ∧ config.excluded = none

/-- The configurations that a configuration is made of: those of a chain that was loaded, or none. -/
inductive MadeOf (fs : FileSystem) : Config → List Config → Prop where
  | nothing : MadeOf fs {} []
  | chain (start : Path) (links : List Link) (last : Link) (config : Config)
      (ends : Ends fs start links last) (loaded : load fs start = .ok config) :
      MadeOf fs config ((links ++ [last]).map Link.config)

theorem Patternless.onTopOf {config base : Config} (above : config.Patternless)
    (below : base.Patternless) : (config.onTopOf base).Patternless := by
  constructor
  · change (config.included <|> base.included) = none
    rw [above.1, below.1]
    rfl
  · change (config.excluded <|> base.excluded) = none
    rw [above.2, below.2]
    rfl

theorem patternless_foldr (configs : List Config) (last : Config)
    (silent : ∀ config ∈ configs ++ [last], config.Patternless) :
    (configs.foldr Config.onTopOf last).Patternless := by
  induction configs with
  | nil => exact silent last (List.mem_singleton.mpr rfl)
  | cons config configs ih =>
      have below := ih fun other member => silent other (List.mem_cons_of_mem config member)
      exact (silent config List.mem_cons_self).onTopOf below

theorem MadeOf.patternless {fs : FileSystem} {config : Config} {layers : List Config}
    (made : MadeOf fs config layers) (silent : ∀ layer ∈ layers, layer.Patternless) :
    config.Patternless := by
  cases made with
  | nothing => exact ⟨rfl, rfl⟩
  | chain start links last config ends loaded =>
      cases loaded.symm.trans ends.load
      rw [List.map_append] at silent
      exact patternless_foldr _ _ silent

theorem Patternless.patterns {config : Config} {settings : Settings} (silent : config.Patternless)
    (resolves : config.Resolves settings) :
    settings.included = [Glob.defaultPattern] ∧ settings.excluded = [] := by
  obtain ⟨included, excluded⟩ := resolves.patterns
  rw [includes, silent.1, Option.getD_none, Glob.parseAll_default] at included
  rw [excludes, silent.2] at excluded
  exact ⟨(Except.ok.inj included).symm, (Except.ok.inj excluded).symm⟩

end Config

namespace Discovery

/-- A path leads to a file below a directory, and what it adds to the directory ends in the usual
way. -/
def ModelBelow (fs : FileSystem) (directory path : Path) : Prop :=
  ∃ names location content, path.components = directory.components ++ names.map .name ∧
    fs.locate path = .ok location ∧ fs.get? location = some (.file content) ∧
    Bytes.ofText ".model.json" <:+ [Bytes.slash].intercalate names

theorem selected_default (fs : FileSystem) (settings : Settings) (directory path : Path)
    (included : settings.included = [Glob.defaultPattern]) (excluded : settings.excluded = []) :
    Selected fs settings directory path ↔ ModelBelow fs directory path := by
  simp [Selected, ModelBelow, included, excluded, Glob.isMatch_default]

/-- If neither a configuration nor what it extends sets a list of patterns, a directory stands for all
files below it that end in the usual way. It can be expanded exactly if no entry below it dangles and no
directory leads back to itself, and always if there are no links below it, however deep it is. The
models of some inputs are those of the directories among them, together with the files that are
given. -/
theorem default_models (fs : FileSystem) (config : Config) (layers : List Config)
    (settings : Settings) (made : config.MadeOf fs layers)
    (silent : ∀ layer ∈ layers, layer.Patternless) (resolves : config.Resolves settings) :
    (∀ input location, fs.locate input = .ok location → fs.get? location = some .directory →
      (LinkFree fs location → ∃ found, expand fs settings input = .ok found) ∧
      ((∃ found, expand fs settings input = .ok found) ↔ Walkable fs input) ∧
      ∀ found, expand fs settings input = .ok found → Comprises (ModelBelow fs input) found) ∧
    ∀ inputs directory, Ready fs inputs directory →
      ∃ paths, models fs settings inputs directory = .ok paths ∧
        Lists (fun path => (path ∈ inputs ∧ fs.isFile path = true) ∨
          ∃ root, Searched fs inputs directory root ∧ ModelBelow fs root path) paths := by
  obtain ⟨included, excluded⟩ := (made.patternless silent).patterns resolves
  have selected := fun directory path =>
    selected_default fs settings directory path included excluded
  constructor
  · intro input location located isDirectory
    have searched : expand fs settings input = search fs settings input := by
      apply expand_of_isDirectory
      simp only [FileSystem.isDirectory, located]
      exact (fs.isDirectoryAt_iff location).mpr isDirectory
    have expands : (∃ found, expand fs settings input = .ok found) ↔ Walkable fs input := by
      rw [searched]
      exact search_ok_iff fs settings input
    refine ⟨fun free => expands.mpr (walkable_of_linkFree fs input location located free), expands, ?_⟩
    intro found expanded
    obtain ⟨paths, same, comprises⟩ :=
      search_of_walkable fs settings input (expands.mp ⟨found, expanded⟩)
    cases (searched.symm.trans expanded).symm.trans same
    exact comprises.congr (selected input)
  · intro inputs directory ready
    obtain ⟨paths, found, lists⟩ := models_of_ready fs settings inputs directory ready
    have eligible : Eligible fs settings inputs directory = fun path =>
        (path ∈ inputs ∧ fs.isFile path = true) ∨
          ∃ root, Searched fs inputs directory root ∧ ModelBelow fs root path := by
      funext path
      simp only [Eligible, selected]
    exact ⟨paths, found, eligible ▸ lists⟩

def quietTexts : List (Bytes × String) :=
  [("ibc.json", "\x7bextends:'base'\x7d"), ("base.json", "\x7brules:\x7bIBC1000:'none'\x7d\x7d")]

def quietEntries : List (Location × Node) :=
  [(["d"], .directory), (["d", ".model.json"], .file ⟨#[]⟩), (["d", "x.json"], .file ⟨#[]⟩),
    (["d", "é"], .directory), (["d", "é", "..model.json"], .file ⟨#[]⟩)]

def quiet : FileSystem := .ofTexts quietTexts quietEntries

def quietLink : Config.Link := ⟨⟨"/ibc.json"⟩, { base := some "base" }⟩

def quietLast : Config.Link := ⟨⟨"/base.json"⟩, { rules := some (RuleMap.empty.insert "IBC1000" .off) }⟩

theorem quiet_ends : Config.Ends quiet ⟨"/ibc.json"⟩ [quietLink] quietLast := by
  have toBase : Config.basePath ⟨"/ibc.json"⟩ "base" = .ok ⟨"/base.json"⟩ := by
    rw [Config.basePath_eq_ok _ ⟨"/"⟩ _ (by decide +kernel)]
    congr 1
  have reads := FileSystem.readText_ofTexts quietTexts quietEntries (by decide +kernel)
    (by decide +kernel)
  obtain ⟨first, top⟩ := reads ⟨"/ibc.json"⟩ "ibc.json" _ (by decide +kernel) (.head _)
  obtain ⟨second, base⟩ := reads ⟨"/base.json"⟩ "base.json" _ (by decide +kernel)
    (.tail _ (.head _))
  refine ⟨?_, ⟨?_, ?_, trivial⟩, ⟨_, base, by decide +kernel⟩, rfl⟩
  · exact .step _ _ _ _ "base" _ _ top (by decide +kernel) rfl toBase (.stay _)
  · rw [Config.revisits_iff]
    exact Bool.false_ne_true
  · rw [Config.revisits_iff]
    simp only [quiet, quietLast, quietLink, Config.Link.canonical, first, second]
    decide +kernel

theorem quiet_expands (top base : String) (rules : RuleMap) :
    let fs := FileSystem.ofTexts [("ibc.json", top), ("base.json", base)] quietEntries
    fs.locate ⟨"/d"⟩ = .ok ["d"] ∧ fs.get? ["d"] = some .directory ∧
      expand fs ⟨none, [Glob.defaultPattern], [], rules⟩ ⟨"/d"⟩ =
        .ok [⟨"/d/.model.json"⟩, ⟨"/d/é/..model.json"⟩] := by
  refine ⟨?_, ?_, ?_⟩ <;> cbv

theorem quiet_models :
    ∃ (config : Config) (layers : List Config) (settings : Settings),
      config.MadeOf quiet layers ∧ (∀ layer ∈ layers, layer.Patternless) ∧
      config.Resolves settings ∧ quiet.locate ⟨"/d"⟩ = .ok ["d"] ∧
      quiet.get? ["d"] = some .directory ∧
      expand quiet settings ⟨"/d"⟩ = .ok [⟨"/d/.model.json"⟩, ⟨"/d/é/..model.json"⟩] ∧
      Comprises (ModelBelow quiet ⟨"/d"⟩) [⟨"/d/.model.json"⟩, ⟨"/d/é/..model.json"⟩] := by
  have made := Config.MadeOf.chain _ _ _ _ quiet_ends quiet_ends.load
  have silent : ∀ layer ∈ ([quietLink] ++ [quietLast]).map Config.Link.config, layer.Patternless := by
    simp [quietLink, quietLast, Config.Patternless]
  have resolves : Config.Resolves _
      ⟨none, [Glob.defaultPattern], [], RuleMap.empty.insert "IBC1000" .off⟩ :=
    ⟨none, [], ["IBC1000"], by
      rw [Settings.ofConfig_eq, Config.includes, (made.patternless silent).1, Option.getD_none,
        Settings.readPatterns, Glob.parseAll_default]
      rfl⟩
  obtain ⟨located, directory, expanded⟩ := quiet_expands _ _ _
  have found := ((default_models quiet _ _ _ made silent resolves).1 ⟨"/d"⟩ ["d"] located directory).2.2
  exact ⟨_, _, _, made, silent, resolves, located, directory, expanded, found _ expanded⟩

end Discovery

end ConventionLint
