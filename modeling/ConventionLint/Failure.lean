import ConventionLint.Config.Basic
import ConventionLint.FileSystem
import ConventionLint.Glob.Pattern
import ConventionLint.Json.Reader

namespace ConventionLint

inductive WalkError where
  | loop
  | entry (error : FileError)
  deriving DecidableEq, Repr

inductive PatternList where
  | included
  | excluded
  deriving DecidableEq, Repr

inductive Cause where
  | json (error : Json.ReadError)
  | config (error : ConfigError)
  | pattern (text : String) (error : Glob.Error)
  | file (error : FileError)
  | walk (error : WalkError)
  deriving DecidableEq, Repr

inductive Failure where
  | noCurrentDirectory (error : FileError)
  | noConfigIn (directory : Path)
  | configNotFound (path : Path)
  | extendsCycle (path : Path)
  | configUnreadable (path : Path) (error : FileError)
  | configInvalid (path : Path) (error : ConfigError)
  | noParentDirectory
  | unknownRule (id : String) (known : List String)
  | badPattern (list : PatternList) (text : String) (error : Glob.Error)
  | inputNotFound (path : Path)
  | walkFailed (directory : Path) (error : WalkError)
  | modelUnreadable (path : Path) (error : FileError)
  | modelInvalid (path : Path) (error : Json.ReadError)
  | pathNotText
  deriving DecidableEq, Repr

def configFileName : String := "ibc.json"

namespace Failure

/-- The reader of configurations says this of every text that it refuses. -/
def invalidConfig : String := "failed to parse " ++ configFileName

def message : Failure → String
  | noCurrentDirectory _ => "failed to resolve current directory"
  | noConfigIn directory => "no " ++ configFileName ++ " found in " ++ directory.text
  | configNotFound path => "config file not found: " ++ path.text
  | extendsCycle path => configFileName ++ " extends cycle detected at " ++ path.text
  | configUnreadable path _ => "failed to read config: " ++ path.text
  | configInvalid path _ => "failed to parse config: " ++ path.text ++ ": " ++ invalidConfig
  | noParentDirectory => "config has no parent directory"
  | unknownRule id known => "unknown rule id '" ++ id ++ "'. Known rules: " ++ ", ".intercalate known
  | badPattern .included text _ => "invalid include pattern: bad glob: " ++ text
  | badPattern .excluded text _ => "invalid exclude pattern: bad glob: " ++ text
  | inputNotFound path => "input not found: " ++ path.text
  | walkFailed directory _ => "failed to walk directory: " ++ directory.text
  | modelUnreadable path _ => "failed to read model: " ++ path.text
  | modelInvalid path _ => "failed to parse model: " ++ path.text
  | pathNotText => "path contains invalid UTF-8 characters"

def cause? : Failure → Option Cause
  | noCurrentDirectory error => some (.file error)
  | configUnreadable _ error => some (.file error)
  | configInvalid _ error => some (.config error)
  | badPattern _ text error => some (.pattern text error)
  | walkFailed _ error => some (.walk error)
  | modelUnreadable _ error => some (.file error)
  | modelInvalid _ error => some (.json error)
  | _ => none

end Failure

def Cause.message : Cause → String
  | json (.defect .malformed) => "malformed JSON"
  | json (.defect .ended) => "JSON ends too early"
  | json (.mismatch mismatch) => mismatch.message Json.wording
  | config .malformed => "malformed JSON5"
  | config (.data error) => error.message
  | pattern text error => error.message text
  | file error => error.message
  | walk .loop => "file system loop found"
  | walk (.entry error) => error.message

def Failure.account (failure : Failure) : String :=
  match failure.cause? with
  | none => failure.message
  | some cause => failure.message ++ ": " ++ cause.message

end ConventionLint
