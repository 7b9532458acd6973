import ConventionLint.Json5.Reader
import ConventionLint.RuleMap

namespace ConventionLint

open Json5 (Document DataError)

structure Config where
  base : Option String := none
  included : Option (List String) := none
  excluded : Option (List String) := none
  rules : Option RuleMap := none
  deriving DecidableEq, Repr

inductive ConfigError where
  | malformed
  | data (error : DataError)
  deriving DecidableEq, Repr

namespace RuleSeverity

/-- A severity by its label: a string, or the name of the first field of an object. -/
def read (document : Document) : Except DataError RuleSeverity :=
  let named (components : List Json5.Component) : Except DataError RuleSeverity :=
    (Json5.textOf components).bind fun text =>
      match ofLabel? (String.ofList text) with
      | some severity => .ok severity
      | none => .error (.mismatch (.unknownVariant (String.ofList text) (all.map label)))
  match document with
  | .string components => named components
  | .object ((name, _) :: _) => named name
  | .object [] => .error .emptyObject
  | _ => .error .noChoice

end RuleSeverity

namespace RuleMap

def readEntry (entry : List Json5.Component × Document) : Except DataError (String × RuleSeverity) := do
  let id ← Json5.textOf entry.1
  let severity ← RuleSeverity.read entry.2
  return (String.ofList id, severity)

def read : Document → Except DataError RuleMap
  | .object fields => (fields.mapM readEntry).map RuleMap.empty.insertAll
  | document => document.refuse "a map"

end RuleMap

namespace Config

/-- A configuration of which some parts have been read. A part that was read as null is set. -/
structure Draft where
  base : Option (Option String) := none
  included : Option (Option (List String)) := none
  excluded : Option (Option (List String)) := none
  rules : Option (Option RuleMap) := none

structure Part where
  name : String
  isSet : Draft → Bool
  read : Document → Draft → Except DataError Draft

def parts : List Part :=
  [⟨"extends", fun d => d.base.isSome,
      fun v d => (v.nullable Document.text).map fun base => { d with base := some base }⟩,
    ⟨"include", fun d => d.included.isSome,
      fun v d => (v.nullable (Document.list Document.text)).map fun texts => { d with included := some texts }⟩,
    ⟨"exclude", fun d => d.excluded.isSome,
      fun v d => (v.nullable (Document.list Document.text)).map fun texts => { d with excluded := some texts }⟩,
    ⟨"rules", fun d => d.rules.isSome,
      fun v d => (v.nullable RuleMap.read).map fun rules => { d with rules := some rules }⟩]

def Draft.toConfig (draft : Draft) : Config where
  base := draft.base.join
  included := draft.included.join
  excluded := draft.excluded.join
  rules := draft.rules.join

def readFields (draft : Draft) :
    List (List Json5.Component × Document) → Except DataError Draft
  | [] => .ok draft
  | (name, value) :: fields =>
    match Json5.textOf name with
    | .error e => .error e
    | .ok text =>
      let name := String.ofList text
      match parts.find? fun part => part.name = name with
      | none => .error (.mismatch (.unknownField name (parts.map Part.name)))
      | some part =>
        if part.isSet draft then .error (.mismatch (.duplicateField name))
        else
          match part.read value draft with
          | .error e => .error e
          | .ok draft => readFields draft fields

/-- Read the parts of an array by position. Missing parts are open, and further items are skipped. -/
def readItems (draft : Draft) : List Part → List Document → Except DataError Draft
  | part :: parts, item :: items =>
    match part.read item draft with
    | .error e => .error e
    | .ok draft => readItems draft parts items
  | _, _ => .ok draft

def read : Document → Except DataError Config
  | .array items => (readItems {} parts items).map Draft.toConfig
  | .object fields => (readFields {} fields).map Draft.toConfig
  | document => document.refuse "struct IbcConfig"

def ofText (text : String) : Except ConfigError Config :=
  match Document.ofText? text with
  | none => .error .malformed
  | some document =>
    match read document with
    | .error e => .error (.data e)
    | .ok config => .ok config

/-- A configuration on top of its base. Lists of patterns are replaced, severities are merged. -/
def onTopOf (config base : Config) : Config where
  base := none
  included := config.included <|> base.included
  excluded := config.excluded <|> base.excluded
  rules :=
    match base.rules, config.rules with
    | some below, some above => some (below.insertAll above.entries)
    | below, above => above <|> below

end Config

end ConventionLint
