import ConventionLint.Failure
import ConventionLint.Glob.Match
import ConventionLint.Json.Value

namespace ConventionLint

structure Settings where
  configPath : Option Path
  included : List Glob.Pattern
  excluded : List Glob.Pattern
  rules : RuleMap

namespace Settings

def defaultPatterns : List String := ["**/*.model.json"]

def readPatterns (list : PatternList) (texts : List String) : Except Failure (List Glob.Pattern) :=
  match Glob.parseAll texts with
  | .error (text, e) => .error (.badPattern list text e)
  | .ok patterns => .ok patterns

/-- Check a configuration. Unknown rules are reported before bad patterns, the first in order. -/
def ofConfig (config : Config) (configPath : Option Path) (overrides : List RuleOverride)
    (known : List String) : Except Failure Settings :=
  let rules := (config.rules.getD .empty).insertAll (overrides.map fun rule => (rule.id, rule.severity))
  match rules.ids.find? fun id => !known.contains id with
  | some id => .error (.unknownRule id known)
  | none => do
    let included ← readPatterns .included (config.included.getD defaultPatterns)
    let excluded ← readPatterns .excluded (config.excluded.getD [])
    return ⟨configPath, included, excluded, rules⟩

def selects (settings : Settings) (path : Bytes) : Bool :=
  Glob.anyMatch settings.included path && !Glob.anyMatch settings.excluded path

def toValue (settings : Settings) : Json.Value :=
  let texts (patterns : List Glob.Pattern) : Json.Value :=
    .array (patterns.map fun pattern => .string pattern.text)
  .object
    [("configPath", ((settings.configPath.map fun path => Json.Value.string path.text).getD .null)),
      ("include", texts settings.included), ("exclude", texts settings.excluded),
      ("rules", .object (settings.rules.entries.map fun (id, severity) => (id, .string severity.label)))]

end Settings

end ConventionLint
