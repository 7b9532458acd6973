import ConventionLint.CommandLine
import ConventionLint.Config.Chain
import ConventionLint.Discovery
import ConventionLint.Program.Reader
import ConventionLint.Report.Listing
import ConventionLint.Report.Text
import ConventionLint.Rules.ImmutableByConvention

/-!
A run: from a command line and a file system to the text that is printed and the status.

Every model file is a program of its own, and is analyzed and shown by itself. Nothing is printed of a
run that fails.
-/
namespace ConventionLint

structure ModelReport where
  path : Path
  diagnostics : List Diagnostic
  sources : List (String × String)

namespace ModelReport

def render (report : ModelReport) : Report.Styled :=
  Report.diagnostics (Report.Sources.empty.addAll report.sources) report.diagnostics

end ModelReport

namespace Run

def knownRules : List Descriptor := (Host.builtIn .empty).supported

/-- The settings of a run, and the directory that is searched when there are no inputs. -/
def settings (fs : FileSystem) (commandLine : CommandLine) (cwd : Path) :
    Except Failure (Settings × Path) := do
  let configPath ← Config.find fs commandLine.projectPath cwd
  let config ← match configPath with
    | some path => Config.load fs path
    | none => .ok {}
  let directory := (configPath.bind Path.parent?).getD cwd
  let settings ← Settings.ofConfig config configPath commandLine.rules (knownRules.map Descriptor.id)
  return (settings, directory)

def loadModel (fs : FileSystem) (path : Path) : Except Failure Program :=
  match fs.readText path with
  | .error e => .error (.modelUnreadable path e)
  | .ok text =>
    match Program.ofJson text with
    | .error e => .error (.modelInvalid path e)
    | .ok program => .ok program

def analyzeModel (fs : FileSystem) (host : Host) (path : Path) : Except Failure ModelReport :=
  (loadModel fs path).map fun program =>
    { path := path
      diagnostics := host.analyze program
      sources := program.files.filterMap fun file => file.text.map fun text => (file.name, text) }

def analyzeModels (fs : FileSystem) (host : Host) (paths : List Path) :
    Except Failure (List ModelReport) :=
  paths.mapM (analyzeModel fs host)

def inputPaths (commandLine : CommandLine) (cwd : Path) : List Path := commandLine.inputPaths.map cwd.join

def analyze (fs : FileSystem) (commandLine : CommandLine) (cwd : Path) :
    Except Failure (List ModelReport) := do
  let (settings, directory) ← settings fs commandLine cwd
  let paths ← Discovery.models fs settings (inputPaths commandLine cwd) directory
  analyzeModels fs (Host.builtIn settings.rules) paths

structure Needs where
  directories : List Path := []
  files : List Path := []

/-- What a run needs to know of the file system, as far as what is known already tells. -/
def needs (fs : FileSystem) (commandLine : CommandLine) (cwd : Path) : Needs :=
  let candidates := match commandLine.projectPath with
    | none => [cwd.join ⟨configFileName⟩]
    | some project => [cwd.join project, (cwd.join project).join ⟨configFileName⟩]
  if commandLine.listRules then {}
  else
    match settings fs commandLine cwd with
    | .error (.configUnreadable path _) => { files := candidates ++ [path] }
    | .error _ => { files := candidates }
    | .ok (settings, directory) =>
      if commandLine.showConfig then { files := candidates }
      else
        let inputs := inputPaths commandLine cwd
        let models := (Discovery.models fs settings inputs directory).toOption.getD []
        { directories := if inputs.isEmpty then [directory] else inputs, files := candidates ++ models }

def diagnostics (reports : List ModelReport) : List Diagnostic := reports.flatMap ModelReport.diagnostics

def hasErrors (reports : List ModelReport) : Bool :=
  (diagnostics reports).any fun diagnostic => diagnostic.severity = .error

structure Display where
  terminal : Bool := false
  forceColor : Option String := none
  noColor : Option String := none
  color : Option String := none

def Display.allowsColor (display : Display) : Bool :=
  if display.forceColor.any (· != "0") then true
  else if display.noColor.isSome then false
  else display.terminal && display.color.all (· != "0")

def usesColor (display : Display) (commandLine : CommandLine) : Bool :=
  commandLine.pretty.getD display.terminal && display.allowsColor

def textOutput (color : Bool) (reports : List ModelReport) : String :=
  let blocks := (reports.filter fun report => !report.diagnostics.isEmpty).map fun report =>
    report.render.write color ++ "\n"
  let footer := match Report.summary (diagnostics reports) with
    | some summary => "\n" ++ summary ++ "\n"
    | none => ""
  String.join blocks ++ footer

/-- The reports that a listing has entries of. A model stands there by its path, which has to be text. -/
def listed (reports : List ModelReport) : Except Failure (List (String × List Diagnostic)) :=
  (reports.filter fun report => !report.diagnostics.isEmpty).mapM fun report =>
    match report.path.bytes.text? with
    | none => .error .pathNotText
    | some text => .ok (text, report.diagnostics)

def jsonOutput (reports : List ModelReport) : Except Failure String :=
  (listed reports).map fun models => (Report.listing models).pretty ++ "\n"

def reportOutput (display : Display) (commandLine : CommandLine) (reports : List ModelReport) :
    Except Failure String :=
  match commandLine.format with
  | .text => .ok (textOutput (usesColor display commandLine) reports)
  | .json => jsonOutput reports

structure Outcome where
  status : Nat
  output : String := ""
  complaint : String := ""
  deriving DecidableEq, Repr

def attempt (fs : FileSystem) (cwd : Path) (display : Display) (commandLine : CommandLine) :
    Except Failure Outcome :=
  if commandLine.listRules then
    .ok { status := 0, output := (Report.rules knownRules).write (usesColor display commandLine) }
  else if commandLine.showConfig then
    (settings fs commandLine cwd).map fun (settings, _) =>
      { status := 0, output := settings.toValue.pretty ++ "\n" }
  else
    (analyze fs commandLine cwd).bind fun reports =>
      (reportOutput display commandLine reports).map fun text =>
        { status := if hasErrors reports then 1 else 0, output := text }

instance : Coe Path (Except FileError Path) := ⟨.ok⟩

/-- The outcome of an accepted command line. The current directory is asked for first, and need not be
there. The status is two if the run fails. -/
def outcome (fs : FileSystem) (cwd : Except FileError Path) (display : Display)
    (commandLine : CommandLine) : Outcome :=
  match (cwd.mapError Failure.noCurrentDirectory).bind fun cwd => attempt fs cwd display commandLine with
  | .ok outcome => outcome
  | .error failure => { status := 2, complaint := "error: " ++ failure.account ++ "\n" }

def versionText : String := "ibc 0.1.0\n"

/-- The outcome of a command line. What is said of one that is not accepted is not part of it, nor is
the text of the help. -/
def execute (fs : FileSystem) (cwd : Except FileError Path) (display : Display) (args : List Bytes) :
    Outcome :=
  match CommandLine.parse args with
  | .ok commandLine => outcome fs cwd display commandLine
  | .error .displayHelp => { status := 0 }
  | .error .displayVersion => { status := 0, output := versionText }
  | .error _ => { status := 2 }

end Run

end ConventionLint
