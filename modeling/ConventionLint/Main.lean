import ConventionLint.Run

/-!
The command: the file system is read as far as a run needs it, and the run itself is computed from that.
-/
namespace ConventionLint.Main

structure Snapshot where
  fs : FileSystem := .empty
  paths : List String := []

def helpText : String :=
  "Flags property assignments on types marked immutable by convention\n\n" ++
  "Usage: ibc [OPTIONS] [INPUT]...\n\n" ++
  "Arguments:\n" ++
  "  [INPUT]...  Program model files or directories to analyze\n\n" ++
  "Options:\n" ++
  "  -p, --project <PROJECT>   Path to ibc.json or a directory containing it\n" ++
  "      --format <FORMAT>     Output format for diagnostics: text or json\n" ++
  "      --pretty <PRETTY>     Enable color in text output: true or false\n" ++
  "      --rule <ID=SEVERITY>  Override a rule's severity; may be repeated\n" ++
  "      --list-rules          Print every available rule and exit\n" ++
  "      --show-config         Print the resolved configuration instead of analyzing\n" ++
  "  -h, --help                Print help\n" ++
  "  -V, --version             Print version\n"

/-- What is printed of a command line that leads to no run, and what is said of it. -/
def usageTexts : UsageError → String × String
  | .invalidValue => ("", "error: a value is missing or invalid\n")
  | .unknownArgument => ("", "error: unexpected argument\n")
  | .valueValidation => ("", "error: a rule override is invalid\n")
  | .argumentConflict => ("", "error: an argument cannot be used multiple times\n")
  | .tooManyValues => ("", "error: unexpected value for a flag\n")
  | .displayHelp => (helpText, "")
  | .displayVersion => ("", "")

def currentDirectory : IO (Except FileError Path) := do
  try return .ok ⟨(← IO.currentDir).toString⟩
  catch _ => return .error .notFound

def location (real : String) : Location :=
  (Path.mk real).segments.filter fun segment => !Path.isIdle segment

def real? (directory name : String) : IO (Option String) := do
  try
    return some (← IO.FS.realPath (directory ++ "/" ++ name)).toString
  catch _ => return none

/-- Add what a name in a real directory stands for, by itself. A link that leads nowhere gets a target
that is not there. -/
def addEntry (fs : FileSystem) (directory name : String) : IO FileSystem := do
  let entry : IO.FS.DirEntry := ⟨directory, name⟩
  let place := location (directory ++ "/" ++ name)
  if (fs.get? place).isSome then return fs
  try
    match (← entry.path.symlinkMetadata).type with
    | .symlink => return fs.put place (.link ⟨(← real? directory name).getD (name ++ " (missing)")⟩)
    | .dir => return fs.ensureDirectory place
    | .file => return fs.put place (.file .empty)
    | .other => return fs
  catch _ => return fs

def isDirectory (real : String) : IO Bool := do
  let entry : IO.FS.DirEntry := ⟨real, "."⟩
  entry.path.isDir

def addPath (fs : FileSystem) (directory : String) : List Bytes → IO (FileSystem × Option String)
  | [] => do
    if ← isDirectory directory then return (fs.ensureDirectory (location directory), some directory)
    else if (fs.get? (location directory)).isSome then return (fs, some directory)
    else return (fs.put (location directory) (.file .empty), some directory)
  | name :: names => do
    if Path.isIdle name then addPath fs directory names
    else
      let fs ← if name = Path.upward then pure fs else addEntry fs directory name.shown
      match ← real? directory name.shown with
      | some real => addPath fs real names
      | none => return (fs, none)

partial def addTree (snapshot : Snapshot) (directory : String) : IO Snapshot := do
  if snapshot.paths.contains directory then return snapshot
  let root : IO.FS.DirEntry := ⟨directory, "."⟩
  let mut snapshot : Snapshot := ⟨snapshot.fs, directory :: snapshot.paths⟩
  for entry in ← root.path.readDir do
    let (fs, real) ← addPath snapshot.fs directory [↑entry.fileName]
    snapshot := { snapshot with fs := fs }
    if let some real := real then
      if ← isDirectory real then snapshot ← addTree snapshot real
  return snapshot

def addDirectory (snapshot : Snapshot) (path : Path) : IO Snapshot := do
  let (fs, real) ← addPath snapshot.fs "/" path.segments
  let snapshot := { snapshot with fs := fs }
  match real with
  | none => return snapshot
  | some real => if ← isDirectory real then addTree snapshot real else return snapshot

def addFile (snapshot : Snapshot) (path : Path) : IO Snapshot := do
  let (fs, real) ← addPath snapshot.fs "/" path.segments
  let snapshot : Snapshot := ⟨fs, path.text :: snapshot.paths⟩
  match real with
  | none => return snapshot
  | some real =>
    match fs.get? (location real) with
    | some (.file _) =>
      let content ← IO.FS.readBinFile real
      return { snapshot with fs := fs.put (location real) (.file content) }
    | _ => return snapshot

partial def readAll (commandLine : CommandLine) (cwd : Path) (snapshot : Snapshot) : IO FileSystem := do
  let needs := Run.needs snapshot.fs commandLine cwd
  let files := needs.files.filter fun path => !snapshot.paths.contains path.text
  let directories := needs.directories.filter fun path => !snapshot.paths.contains path.text
  if files.isEmpty && directories.isEmpty then return snapshot.fs
  let snapshot ← files.foldlM addFile snapshot
  let snapshot ← directories.foldlM addDirectory snapshot
  readAll commandLine cwd { snapshot with paths := directories.map Path.text ++ snapshot.paths }

end ConventionLint.Main

open ConventionLint in
def main (args : List String) : IO UInt32 := do
  let output ← IO.getStdout
  let display : Run.Display :=
    { terminal := ← output.isTty
      forceColor := ← IO.getEnv "CLICOLOR_FORCE"
      noColor := ← IO.getEnv "NO_COLOR"
      color := ← IO.getEnv "CLICOLOR" }
  let words := args.map Bytes.ofText
  try
    let cwd ← Main.currentDirectory
    let fs ← match CommandLine.parse words, cwd with
      | .ok commandLine, .ok cwd => Main.readAll commandLine cwd {}
      | _, _ => pure FileSystem.empty
    let outcome := Run.execute fs cwd display words
    let usage := match CommandLine.parse words with
      | .ok _ => ("", "")
      | .error e => Main.usageTexts e
    output.putStr (outcome.output ++ usage.1)
    output.flush
    IO.eprint (outcome.complaint ++ usage.2)
    return outcome.status.toUInt32
  catch e =>
    IO.eprintln ("error: " ++ toString e)
    return 2
