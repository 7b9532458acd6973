import ConventionLint.Config.Settings
import ConventionLint.Proofs.Config.RuleMap

namespace ConventionLint

namespace Glob

def IsPattern (text : String) : Prop := ∃ pattern, Pattern.parse text = .ok pattern

structure Reads (texts : List String) (patterns : List Pattern) : Prop where
  written : patterns.map Pattern.text = texts
  parsed : ∀ pattern ∈ patterns, Pattern.parse pattern.text = .ok pattern

def FirstBad (texts : List String) (text : String) (e : Error) : Prop :=
  ∃ before after, texts = before ++ text :: after ∧ (∀ earlier ∈ before, IsPattern earlier) ∧
    Pattern.parse text = .error e

theorem text_of_parse (text : String) (pattern : Pattern)
    (parsed : Pattern.parse text = .ok pattern) : pattern.text = text := by
  unfold Pattern.parse at parsed
  split at parsed
  · cases parsed
  · split at parsed
    · cases parsed
      rfl
    · cases parsed

theorem Reads.isPattern {texts : List String} {patterns : List Pattern}
    (reads : Reads texts patterns) : ∀ text ∈ texts, IsPattern text := by
  intro text listed
  rw [← reads.written] at listed
  obtain ⟨pattern, member, rfl⟩ := List.mem_map.mp listed
  exact ⟨pattern, reads.parsed pattern member⟩

theorem Reads.mem_iff {texts : List String} {patterns : List Pattern}
    (reads : Reads texts patterns) (pattern : Pattern) :
    pattern ∈ patterns ↔ ∃ text ∈ texts, Pattern.parse text = .ok pattern := by
  constructor
  · intro member
    refine ⟨pattern.text, ?_, reads.parsed pattern member⟩
    rw [← reads.written]
    exact List.mem_map_of_mem member
  · rintro ⟨text, listed, parsed⟩
    rw [← reads.written] at listed
    obtain ⟨other, member, rfl⟩ := List.mem_map.mp listed
    cases parsed.symm.trans (reads.parsed other member)
    exact member

theorem FirstBad.exists_bad {texts : List String} {text : String} {e : Error}
    (bad : FirstBad texts text e) : ∃ other ∈ texts, ¬ IsPattern other := by
  obtain ⟨before, after, rfl, _, failed⟩ := bad
  refine ⟨text, List.mem_append_right before List.mem_cons_self, ?_⟩
  rintro ⟨pattern, parsed⟩
  cases failed.symm.trans parsed

theorem reads_of_parseAll (texts : List String) (patterns : List Pattern)
    (read : parseAll texts = .ok patterns) : Reads texts patterns := by
  induction texts generalizing patterns with
  | nil =>
      cases read
      exact ⟨rfl, by simp⟩
  | cons text texts ih =>
      rw [parseAll] at read
      cases parsed : Pattern.parse text with
      | error e => simp [parsed] at read
      | ok first =>
          simp only [parsed] at read
          obtain ⟨rest, readRest, rfl⟩ := (map_eq_ok_iff _ _ _).mp read
          have same := text_of_parse text first parsed
          refine ⟨?_, List.forall_mem_cons.mpr ⟨?_, (ih rest readRest).parsed⟩⟩
          · rw [List.map_cons, same, (ih rest readRest).written]
          · rw [same, parsed]

theorem firstBad_of_parseAll (texts : List String) (text : String) (e : Error)
    (failed : parseAll texts = .error (text, e)) : FirstBad texts text e := by
  induction texts with
  | nil => cases failed
  | cons first texts ih =>
      rw [parseAll] at failed
      cases parsed : Pattern.parse first with
      | error other =>
          simp only [parsed, Except.error.injEq, Prod.mk.injEq] at failed
          obtain ⟨rfl, rfl⟩ := failed
          exact ⟨[], texts, rfl, by simp, parsed⟩
      | ok pattern =>
          simp only [parsed] at failed
          obtain ⟨before, after, rfl, passing, bad⟩ := ih ((map_eq_error_iff _ _ _).mp failed)
          exact ⟨first :: before, after, rfl,
            List.forall_mem_cons.mpr ⟨⟨pattern, parsed⟩, passing⟩, bad⟩

end Glob

namespace Config

def includes (config : Config) : List String := config.included.getD Settings.defaultPatterns

def excludes (config : Config) : List String := config.excluded.getD []

def Mentions (config : Config) (overrides : List RuleOverride) (id : String) : Prop :=
  (∃ rules, config.rules = some rules ∧ id ∈ rules.ids) ∨ ∃ rule ∈ overrides, rule.id = id

def MentionsUnknown (config : Config) (overrides : List RuleOverride) (known : List String)
    (id : String) : Prop :=
  config.Mentions overrides id ∧ id ∉ known

def overridden (config : Config) (overrides : List RuleOverride) : RuleMap :=
  (config.rules.getD .empty).insertAll (overrides.map fun rule => (rule.id, rule.severity))

theorem mem_ids_overridden (config : Config) (overrides : List RuleOverride) (id : String) :
    id ∈ (config.overridden overrides).ids ↔ config.Mentions overrides id := by
  rw [overridden, RuleMap.mem_ids_insertAll, Mentions]
  cases config.rules with
  | none => simp [RuleMap.ids, RuleMap.empty]
  | some rules => simp

end Config

namespace Settings

theorem parseAll_of_readPatterns (list : PatternList) (texts : List String)
    (patterns : List Glob.Pattern) (read : readPatterns list texts = .ok patterns) :
    Glob.parseAll texts = .ok patterns := by
  unfold readPatterns at read
  split at read
  · cases read
  · next parsed =>
      cases read
      exact parsed

theorem firstBad_of_readPatterns (list : PatternList) (texts : List String) (failure : Failure)
    (failed : readPatterns list texts = .error failure) :
    ∃ text e, failure = .badPattern list text e ∧ Glob.FirstBad texts text e := by
  unfold readPatterns at failed
  split at failed
  · next text e bad =>
      cases failed
      exact ⟨text, e, rfl, Glob.firstBad_of_parseAll texts text e bad⟩
  · cases failed

/-- What a check of a configuration finds: the least unknown rule, or the first bad pattern of the
list that is included, or that of the list that is excluded, or nothing. Then the settings have the
patterns of the configuration and the rules that it and the overrides mention. -/
inductive Verdict (config : Config) (configPath : Option Path) (overrides : List RuleOverride)
    (known : List String) : Except Failure Settings → Prop where
  | unknownRule (id : String) (unknown : config.MentionsUnknown overrides known id)
      (least : ∀ other, config.MentionsUnknown overrides known other → id ≤ other) :
      Verdict config configPath overrides known (.error (.unknownRule id known))
  | badIncluded (text : String) (e : Glob.Error)
      (allKnown : ∀ id, ¬ config.MentionsUnknown overrides known id)
      (first : Glob.FirstBad config.includes text e) :
      Verdict config configPath overrides known (.error (.badPattern .included text e))
  | badExcluded (text : String) (e : Glob.Error)
      (allKnown : ∀ id, ¬ config.MentionsUnknown overrides known id)
      (included : ∀ text ∈ config.includes, Glob.IsPattern text)
      (first : Glob.FirstBad config.excludes text e) :
      Verdict config configPath overrides known (.error (.badPattern .excluded text e))
  | accepted (settings : Settings)
      (allKnown : ∀ id, ¬ config.MentionsUnknown overrides known id)
      (path : settings.configPath = configPath)
      (included : Glob.Reads config.includes settings.included)
      (excluded : Glob.Reads config.excludes settings.excluded)
      (ids : ∀ id, id ∈ settings.rules.ids ↔ config.Mentions overrides id) :
      Verdict config configPath overrides known (.ok settings)

theorem least_of_find (ids : List String) (sorted : ids.Pairwise (· < ·)) (test : String → Bool)
    (id : String) (found : ids.find? test = some id) :
    ∀ other ∈ ids, test other = true → id ≤ other := by
  obtain ⟨_, before, after, rfl, failing⟩ := List.find?_eq_some_iff_append.mp found
  have later := (List.pairwise_append.mp sorted).2.1
  intro other member passes
  rcases List.mem_append.mp member with early | late
  · have fails := failing other early
    rw [passes] at fails
    cases fails
  · rcases List.mem_cons.mp late with rfl | last
    · exact le_refl other
    · exact ((List.pairwise_cons.mp later).1 other last).le

theorem ofConfig_eq (config : Config) (configPath : Option Path) (overrides : List RuleOverride)
    (known : List String) :
    ofConfig config configPath overrides known =
      match (config.overridden overrides).ids.find? fun id => !known.contains id with
      | some id => .error (.unknownRule id known)
      | none => do
        let included ← readPatterns .included config.includes
        let excluded ← readPatterns .excluded config.excludes
        return ⟨configPath, included, excluded, config.overridden overrides⟩ :=
  rfl

theorem parts_of_ofConfig (config : Config) (configPath : Option Path)
    (overrides : List RuleOverride) (known : List String) (settings : Settings)
    (checked : ofConfig config configPath overrides known = .ok settings) :
    Glob.parseAll config.includes = .ok settings.included ∧
      Glob.parseAll config.excludes = .ok settings.excluded ∧
      settings.rules = config.overridden overrides := by
  rw [ofConfig_eq] at checked
  split at checked
  · cases checked
  · obtain ⟨included, first, rest⟩ := (bind_eq_ok_iff _ _ _).mp checked
    obtain ⟨excluded, second, done⟩ := (bind_eq_ok_iff _ _ _).mp rest
    cases done
    exact ⟨parseAll_of_readPatterns _ _ _ first, parseAll_of_readPatterns _ _ _ second, rfl⟩

theorem verdict_ofConfig (config : Config) (configPath : Option Path) (overrides : List RuleOverride)
    (known : List String) :
    Verdict config configPath overrides known (ofConfig config configPath overrides known) := by
  have sorted := (config.overridden overrides).ordered
  have unknown : ∀ id, config.MentionsUnknown overrides known id ↔
      id ∈ (config.overridden overrides).ids ∧ (!known.contains id) = true := by
    intro id
    simp [Config.MentionsUnknown, Config.mem_ids_overridden]
  rw [ofConfig_eq]
  split
  · next id found =>
      have passes := List.find?_some found
      refine .unknownRule id ((unknown id).mpr ⟨List.mem_of_find?_eq_some found, passes⟩) ?_
      intro other mentioned
      have listed := (unknown other).mp mentioned
      exact least_of_find _ sorted _ id found other listed.1 listed.2
  · next none =>
      have allKnown : ∀ id, ¬ config.MentionsUnknown overrides known id := by
        intro id mentioned
        have listed := (unknown id).mp mentioned
        exact List.find?_eq_none.mp none id listed.1 listed.2
      cases first : readPatterns .included config.includes with
      | error failure =>
          obtain ⟨text, e, rfl, bad⟩ := firstBad_of_readPatterns _ _ failure first
          exact .badIncluded text e allKnown bad
      | ok included =>
          have reads := Glob.reads_of_parseAll _ _ (parseAll_of_readPatterns _ _ included first)
          cases second : readPatterns .excluded config.excludes with
          | error failure =>
              obtain ⟨text, e, rfl, bad⟩ := firstBad_of_readPatterns _ _ failure second
              exact .badExcluded text e allKnown reads.isPattern bad
          | ok excluded =>
              have others := Glob.reads_of_parseAll _ _ (parseAll_of_readPatterns _ _ excluded second)
              exact .accepted _ allKnown rfl reads others (config.mem_ids_overridden overrides)

/-- A configuration is refused exactly if it or an override mentions an unknown rule, or if a text in
one of its lists is no pattern; and the verdict says which fault is named, or what the settings are. -/
theorem ofConfig_validates (config : Config) (configPath : Option Path)
    (overrides : List RuleOverride) (known : List String) :
    Verdict config configPath overrides known (ofConfig config configPath overrides known) ∧
    ((∃ failure, ofConfig config configPath overrides known = .error failure) ↔
      (∃ id, config.MentionsUnknown overrides known id) ∨
      (∃ text ∈ config.includes, ¬ Glob.IsPattern text) ∨
      ∃ text ∈ config.excludes, ¬ Glob.IsPattern text) := by
  have verdict := verdict_ofConfig config configPath overrides known
  refine ⟨verdict, ?_⟩
  generalize ofConfig config configPath overrides known = outcome at verdict
  cases verdict with
  | unknownRule id unknown least => exact iff_of_true ⟨_, rfl⟩ (.inl ⟨id, unknown⟩)
  | badIncluded text e allKnown first => exact iff_of_true ⟨_, rfl⟩ (.inr (.inl first.exists_bad))
  | badExcluded text e allKnown included first =>
      exact iff_of_true ⟨_, rfl⟩ (.inr (.inr first.exists_bad))
  | accepted settings allKnown path included excluded ids =>
      apply iff_of_false
      · rintro ⟨failure, failed⟩
        cases failed
      · rintro (⟨id, unknown⟩ | ⟨text, listed, bad⟩ | ⟨text, listed, bad⟩)
        · exact allKnown id unknown
        · exact bad (included.isPattern text listed)
        · exact bad (excluded.isPattern text listed)

def faulty : Config where
  included := some ["*", "a[", "\x7b"]
  excluded := some ["]", "[b-a]"]
  rules := some ⟨[("IBC1000", .off), ("IBC2000", .error)], List.pairwise_pair.mpr (by decide)⟩

def faultyOverrides : List RuleOverride :=
  [⟨"IBC3000", .info⟩, ⟨"ABC", .off⟩, ⟨"IBC1000", .error⟩, ⟨"ABC", .error⟩]

theorem faulty_validates :
    (∃ id, ofConfig faulty none faultyOverrides ["IBC1000"] = .error (.unknownRule id ["IBC1000"]) ∧
        faulty.MentionsUnknown faultyOverrides ["IBC1000"] id ∧
        ∀ other, faulty.MentionsUnknown faultyOverrides ["IBC1000"] other → id ≤ other) ∧
      ∃ e, ofConfig faulty none [] ["IBC2000", "IBC1000"] = .error (.badPattern .included "a[" e) ∧
        Glob.FirstBad faulty.includes "a[" e := by
  have unknown : ofConfig faulty none faultyOverrides ["IBC1000"] =
      .error (.unknownRule "ABC" ["IBC1000"]) := rfl
  have parsed : Glob.parseAll faulty.includes = .error ("a[", .unclosedSet) := by cbv
  have bad : ofConfig faulty none [] ["IBC2000", "IBC1000"] =
      .error (.badPattern .included "a[" .unclosedSet) := by
    rw [ofConfig_eq, readPatterns, parsed]
    rfl
  have first := (ofConfig_validates faulty none faultyOverrides ["IBC1000"]).1
  have second := (ofConfig_validates faulty none [] ["IBC2000", "IBC1000"]).1
  rw [unknown] at first
  rw [bad] at second
  refine ⟨⟨_, unknown, ?_⟩, ⟨_, bad, ?_⟩⟩
  · cases first with
    | unknownRule id mentioned least => exact ⟨mentioned, least⟩
  · cases second with
    | badIncluded text e allKnown bad => exact bad

end Settings

end ConventionLint
