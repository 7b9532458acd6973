import ConventionLint.Proofs.Config.Validation
import ConventionLint.Proofs.Discovery.Canonical

namespace ConventionLint

def Config.Resolves (config : Config) (settings : Settings) : Prop :=
  ∃ configPath overrides known, Settings.ofConfig config configPath overrides known = .ok settings

theorem Glob.mem_of_parseAll (texts : List String) (patterns : List Pattern)
    (read : parseAll texts = .ok patterns) (pattern : Pattern) :
    pattern ∈ patterns ↔ ∃ text ∈ texts, Pattern.parse text = .ok pattern :=
  (reads_of_parseAll texts patterns read).mem_iff pattern

theorem Config.Resolves.patterns {config : Config} {settings : Settings}
    (resolves : config.Resolves settings) :
    Glob.parseAll config.includes = .ok settings.included ∧
      Glob.parseAll config.excludes = .ok settings.excluded := by
  obtain ⟨configPath, overrides, known, checked⟩ := resolves
  obtain ⟨included, excluded, _⟩ :=
    Settings.parts_of_ofConfig config configPath overrides known settings checked
  exact ⟨included, excluded⟩

theorem Glob.subset_of_parseAll {fewer more : List String} {patterns others : List Pattern}
    (one : parseAll fewer = .ok patterns) (two : parseAll more = .ok others) (subset : fewer ⊆ more) :
    patterns ⊆ others := by
  intro pattern listed
  obtain ⟨text, member, parsed⟩ := (mem_of_parseAll fewer patterns one pattern).mp listed
  exact (mem_of_parseAll more others two pattern).mpr ⟨text, subset member, parsed⟩

namespace Discovery

theorem Selected.mono {fs : FileSystem} {narrow wide : Settings} {directory path : Path}
    (selected : Selected fs narrow directory path) (included : narrow.included ⊆ wide.included)
    (excluded : wide.excluded ⊆ narrow.excluded) : Selected fs wide directory path := by
  obtain ⟨names, location, content, below, located, file, taken, left⟩ := selected
  obtain ⟨pattern, listed, fits⟩ := taken
  refine ⟨names, location, content, below, located, file, ⟨pattern, included listed, fits⟩, ?_⟩
  rintro ⟨other, listed, fits⟩
  exact left ⟨other, excluded listed, fits⟩

theorem Eligible.mono {fs : FileSystem} {narrow wide : Settings} {inputs : List Path}
    {directory path : Path} (eligible : Eligible fs narrow inputs directory path)
    (included : narrow.included ⊆ wide.included) (excluded : wide.excluded ⊆ narrow.excluded) :
    Eligible fs wide inputs directory path := by
  rcases eligible with given | ⟨root, searched, selected⟩
  · exact .inl given
  · exact .inr ⟨root, searched, selected.mono included excluded⟩

theorem models_congr (fs : FileSystem) (first second : Settings)
    (same : ∀ path, first.selects path = second.selects path) :
    models fs first = models fs second := by
  have searches : search fs first = search fs second := by
    funext directory
    simp only [search, same]
  have expands : expand fs first = expand fs second := by
    funext input
    simp only [expand, searches]
  funext inputs directory
  simp only [models, searches, expands]

/-- The outcome of a discovery is part of another: both fail alike, or the models of one are among
those of the other, in the same order. -/
inductive Within : Except Failure (List Path) → Except Failure (List Path) → Prop where
  | found {fewer more : List Path}
      (sublist : (fewer.map Path.components).Sublist (more.map Path.components)) :
      Within (.ok fewer) (.ok more)
  | failed (failure : Failure) : Within (.error failure) (.error failure)

theorem within_of_subset (fs : FileSystem) (inputs : List Path) (directory : Path)
    (narrow wide : Settings) (included : narrow.included ⊆ wide.included)
    (excluded : wide.excluded ⊆ narrow.excluded) :
    Within (models fs narrow inputs directory) (models fs wide inputs directory) := by
  by_cases ready : Ready fs inputs directory
  · obtain ⟨fewer, foundFewer, one⟩ := models_of_ready fs narrow inputs directory ready
    obtain ⟨more, foundMore, two⟩ := models_of_ready fs wide inputs directory ready
    rw [foundFewer, foundMore]
    exact .found (one.sublist two fun path eligible => eligible.mono included excluded)
  · obtain ⟨failure, fails⟩ := models_of_not_ready fs inputs directory ready
    rw [fails, fails]
    exact .failed failure

/-- A configuration that includes more patterns, or excludes fewer, has more models. The order of
patterns and repeated patterns make no difference, and files that are given are always models. -/
theorem models_monotone_in_patterns (fs : FileSystem) (inputs : List Path) (directory : Path)
    (narrow wide : Config) (fewer more : Settings) (one : narrow.Resolves fewer)
    (two : wide.Resolves more) :
    (narrow.includes ⊆ wide.includes → wide.excludes ⊆ narrow.excludes →
      Within (models fs fewer inputs directory) (models fs more inputs directory)) ∧
    ((∀ text, text ∈ narrow.includes ↔ text ∈ wide.includes) →
      (∀ text, text ∈ narrow.excludes ↔ text ∈ wide.excludes) →
      models fs fewer inputs directory = models fs more inputs directory) ∧
    ∀ paths, models fs fewer inputs directory = .ok paths → ∀ input ∈ inputs,
      fs.isFile input = true → ∃ kept ∈ paths, kept.components = input.components := by
  obtain ⟨included, excluded⟩ := one.patterns
  obtain ⟨includedToo, excludedToo⟩ := two.patterns
  refine ⟨?_, ?_, ?_⟩
  · intro includes excludes
    exact within_of_subset fs inputs directory fewer more
      (Glob.subset_of_parseAll included includedToo includes)
      (Glob.subset_of_parseAll excludedToo excluded excludes)
  · intro includes excludes
    have same : ∀ path, fewer.selects path = more.selects path := by
      intro path
      rw [Bool.eq_iff_iff, selects_iff, selects_iff]
      simp only [Glob.mem_of_parseAll _ _ included, Glob.mem_of_parseAll _ _ includedToo,
        Glob.mem_of_parseAll _ _ excluded, Glob.mem_of_parseAll _ _ excludedToo, includes, excludes]
    rw [models_congr fs fewer more same]
  · intro paths found input given file
    exact (lists_of_models fs fewer inputs directory paths found).complete input (.inl ⟨given, file⟩)

def narrowed : Config := { included := some ["*.json", "x", "*.json"], excluded := some ["sub/*", "y"] }

def widened : Config := { included := some ["x", "z", "*.json"], excluded := some ["sub/*"] }

theorem narrowed_within_widened :
    ∃ fewer more, narrowed.Resolves fewer ∧ widened.Resolves more ∧
      narrowed.includes ⊆ widened.includes ∧ widened.excludes ⊆ narrowed.excludes ∧
      Within (models nested fewer nestedInputs ⟨"/"⟩) (models nested more nestedInputs ⟨"/"⟩) := by
  have one : ∃ fewer, Settings.ofConfig narrowed none [] [] = .ok fewer := ⟨_, by cbv⟩
  have two : ∃ more, Settings.ofConfig widened none [] [] = .ok more := ⟨_, by cbv⟩
  obtain ⟨fewer, resolved⟩ := one
  obtain ⟨more, resolvedToo⟩ := two
  have includes : narrowed.includes ⊆ widened.includes := by decide
  have excludes : widened.excludes ⊆ narrowed.excludes := by decide
  have monotone := models_monotone_in_patterns nested nestedInputs ⟨"/"⟩ narrowed widened fewer more
    ⟨none, [], [], resolved⟩ ⟨none, [], [], resolvedToo⟩
  exact ⟨fewer, more, ⟨none, [], [], resolved⟩, ⟨none, [], [], resolvedToo⟩, includes, excludes,
    monotone.1 includes excludes⟩

end Discovery

end ConventionLint
