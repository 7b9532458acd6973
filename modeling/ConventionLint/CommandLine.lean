import ConventionLint.Path
import ConventionLint.RuleSeverity

/-!
The command line.

Arguments are taken from left to right. A value that stands in an argument of its own, and the inputs,
are kept back and looked at only when the next known option comes, or at the end; so an unknown option
is reported before a bad value that stands right before it.
-/
namespace ConventionLint

inductive OutputFormat where
  | text
  | json
  deriving DecidableEq, Repr

def OutputFormat.label : OutputFormat → String
  | text => "text"
  | json => "json"

structure CommandLine where
  projectPath : Option Path := none
  format : OutputFormat := .text
  pretty : Option Bool := none
  rules : List RuleOverride := []
  listRules : Bool := false
  showConfig : Bool := false
  inputPaths : List Path := []
  deriving DecidableEq, Repr

def CommandLine.project (commandLine : CommandLine) : Option String := commandLine.projectPath.map Path.text

def CommandLine.inputs (commandLine : CommandLine) : List String := commandLine.inputPaths.map Path.text

inductive UsageError where
  | invalidValue
  | unknownArgument
  | valueValidation
  | argumentConflict
  | tooManyValues
  | displayHelp
  | displayVersion
  deriving DecidableEq, Repr

namespace CommandLine

inductive Setting where
  | project
  | format
  | pretty
  | rule
  deriving DecidableEq, Repr

inductive Flag where
  | listRules
  | showConfig
  | help
  | version
  deriving DecidableEq, Repr

def longSetting? (name : Bytes) : Option Setting :=
  let known : List (String × Setting) :=
    [("project", .project), ("format", .format), ("pretty", .pretty), ("rule", .rule)]
  (known.find? fun option => Bytes.ofText option.1 = name).map Prod.snd

def longFlag? (name : Bytes) : Option Flag :=
  let known : List (String × Flag) :=
    [("list-rules", .listRules), ("listRules", .listRules), ("show-config", .showConfig),
      ("showConfig", .showConfig), ("help", .help), ("version", .version)]
  (known.find? fun option => Bytes.ofText option.1 = name).map Prod.snd

def dash : UInt8 := '-'.toUInt8

def equals : UInt8 := '='.toUInt8

/-- What is kept back: the value of an option, which may still be missing, or inputs. -/
inductive Pending where
  | nothing
  | value (setting : Setting) (value : Option Bytes)
  | inputs (values : List Bytes)
  deriving DecidableEq, Repr

structure Draft where
  projectPath : Option Path := none
  format : Option OutputFormat := none
  pretty : Option Bool := none
  rules : List RuleOverride := []
  listRules : Bool := false
  showConfig : Bool := false
  inputPaths : List Path := []
  pending : Pending := .nothing
  deriving DecidableEq, Repr

namespace Draft

def complete (draft : Draft) : CommandLine where
  projectPath := draft.projectPath
  format := draft.format.getD .text
  pretty := draft.pretty
  rules := draft.rules
  listRules := draft.listRules
  showConfig := draft.showConfig
  inputPaths := draft.inputPaths

/-- Give an option its value. Only the override of a rule may come twice. -/
def set (draft : Draft) (setting : Setting) (value : Bytes) : Except UsageError Draft :=
  match setting with
  | .project =>
    if draft.projectPath.isSome then .error .argumentConflict
    else if value.isEmpty then .error .invalidValue
    else .ok { draft with projectPath := some ⟨value⟩ }
  | .format =>
    if draft.format.isSome then .error .argumentConflict
    else
      match [OutputFormat.text, .json].find? fun format => Bytes.ofText format.label = value with
      | some format => .ok { draft with format := some format }
      | none => .error .invalidValue
  | .pretty =>
    if draft.pretty.isSome then .error .argumentConflict
    else if value = Bytes.ofText "true" then .ok { draft with pretty := some true }
    else if value = Bytes.ofText "false" then .ok { draft with pretty := some false }
    else .error .invalidValue
  | .rule =>
    match value.text? with
    | none => .error .invalidValue
    | some text =>
      match RuleOverride.parse text with
      | .ok rule => .ok { draft with rules := draft.rules ++ [rule] }
      | .error _ => .error .valueValidation

def settle (draft : Draft) : Except UsageError Draft :=
  let settled := { draft with pending := .nothing }
  match draft.pending with
  | .nothing => .ok draft
  | .value _ none => .error .invalidValue
  | .value setting (some value) => settled.set setting value
  | .inputs values =>
    if values.any List.isEmpty then .error .invalidValue
    else .ok { settled with inputPaths := draft.inputPaths ++ values.map Path.ofBytes }

def raise (draft : Draft) (flag : Flag) : Except UsageError Draft := do
  let draft ← draft.settle
  match flag with
  | .listRules =>
    if draft.listRules then .error .argumentConflict else .ok { draft with listRules := true }
  | .showConfig =>
    if draft.showConfig then .error .argumentConflict else .ok { draft with showConfig := true }
  | .help => .error .displayHelp
  | .version => .error .displayVersion

def option (draft : Draft) (setting : Setting) (attached : Option Bytes) : Except UsageError Draft := do
  let draft ← draft.settle
  match attached with
  | some value => draft.set setting value
  | none => .ok { draft with pending := .value setting none }

def input (draft : Draft) (value : Bytes) : Except UsageError Draft :=
  match draft.pending with
  | .inputs values => .ok { draft with pending := .inputs (values ++ [value]) }
  | _ => draft.settle.map fun draft => { draft with pending := .inputs [value] }

def plain (draft : Draft) (value : Bytes) : Except UsageError Draft :=
  match draft.pending with
  | .value setting none => .ok { draft with pending := .value setting (some value) }
  | _ => draft.input value

def long (draft : Draft) (bytes : Bytes) : Except UsageError Draft :=
  let name := bytes.takeWhile (· != equals)
  let attached := match bytes.dropWhile (· != equals) with
    | [] => none
    | _ :: value => some value
  match longSetting? name with
  | some setting => draft.option setting attached
  | none =>
    match longFlag? name with
    | none => .error .unknownArgument
    | some flag => if attached.isSome then .error .tooManyValues else draft.raise flag

def short (draft : Draft) : Bytes → Except UsageError Draft
  | [] => .ok draft
  | letter :: bytes =>
    if letter = 'p'.toUInt8 then
      match bytes with
      | [] => draft.option .project none
      | b :: value => draft.option .project (some (if b = equals then value else b :: value))
    else if letter = 'h'.toUInt8 then draft.raise .help
    else if letter = 'V'.toUInt8 then draft.raise .version
    else .error .unknownArgument

def argument (draft : Draft) (value : Bytes) : Except UsageError Draft :=
  match value with
  | first :: second :: bytes =>
    if first ≠ dash then draft.plain value
    else if second = dash then draft.long bytes
    else draft.short (second :: bytes)
  | _ => draft.plain value

/-- Take all arguments. After two dashes that stand alone everything is an input. -/
def arguments (draft : Draft) : List Bytes → Except UsageError Draft
  | [] => draft.settle
  | value :: values =>
    if value = [dash, dash] then do (← values.foldlM input draft).settle
    else
      match draft.argument value with
      | .error e => .error e
      | .ok draft => draft.arguments values

end Draft

def parse (args : List Bytes) : Except UsageError CommandLine :=
  (Draft.arguments {} args).map Draft.complete

end CommandLine

end ConventionLint
