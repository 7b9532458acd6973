import ConventionLint.Severity
import ConventionLint.Text.WhiteSpace

namespace ConventionLint

inductive RuleSeverity where
  | byDefault
  | error
  | warning
  | info
  | hidden
  | off
  deriving DecidableEq, Repr, Inhabited

inductive OverrideError where
  | noSeparator (value : String)
  | noRuleId (value : String)
  | badSeverity (text : String)
  deriving DecidableEq, Repr

def OverrideError.message : OverrideError → String
  | noSeparator value => "expected ID=SEVERITY, got '" ++ value ++ "'"
  | noRuleId value => "missing rule id in '" ++ value ++ "'"
  | badSeverity text =>
    "invalid rule severity '" ++ text ++
      "'. Expected one of: default, error, warning, info, hidden, none"

namespace RuleSeverity

def label : RuleSeverity → String
  | byDefault => "default"
  | error => "error"
  | warning => "warning"
  | info => "info"
  | hidden => "hidden"
  | off => "none"

def all : List RuleSeverity := [byDefault, error, warning, info, hidden, off]

def ofLabel? (label : String) : Option RuleSeverity := all.find? fun severity => severity.label = label

def ofName? (name : String) : Option RuleSeverity :=
  if name = "warn" then some warning
  else if name = "suggestion" then some info
  else if name = "silent" then some hidden
  else if name = "off" then some off
  else ofLabel? name

def parse (text : String) : Except OverrideError RuleSeverity :=
  match ofName? (Text.foldName text) with
  | some severity => .ok severity
  | none => .error (.badSeverity text)

end RuleSeverity

structure RuleOverride where
  id : String
  severity : RuleSeverity
  deriving DecidableEq, Repr

/-- Read `ID=SEVERITY`. The first equals sign divides the two. -/
def RuleOverride.parse (value : String) : Except OverrideError RuleOverride :=
  match value.toList.dropWhile (· != '=') with
  | [] => .error (.noSeparator value)
  | _ :: severity =>
    let id := Text.trim (value.toList.takeWhile (· != '='))
    if id.isEmpty then .error (.noRuleId value)
    else (RuleSeverity.parse (String.ofList severity)).map fun severity => ⟨String.ofList id, severity⟩

end ConventionLint
