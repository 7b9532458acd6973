import ConventionLint.Config.Settings
import ConventionLint.FileSystem

namespace ConventionLint.Discovery

def unenclosed (fs : FileSystem) (enclosing : List Location) : Nat :=
  fs.directories.countP fun location => !enclosing.contains location

theorem unenclosed_lt {fs : FileSystem} {enclosing : List Location} {location : Location}
    (found : fs.get? location = some .directory) (fresh : location ∉ enclosing) :
    unenclosed fs (location :: enclosing) < unenclosed fs enclosing := by
  refine FileSystem.countP_lt ?_ (FileSystem.mem_directories found) (by simpa using fresh) (by simp)
  intro other
  simp only [List.contains_cons, Bool.not_or, Bool.and_eq_true]
  exact And.right

/-- The files that some entries of a directory lead to, by the names below the directory. No more links
are followed on a whole path than are left, and a directory inside one of its own is a loop. -/
def filesBelow (fs : FileSystem) (enclosing : List Location) (links : Nat) (directory : Location) :
    List Bytes → Except WalkError (List (List Bytes))
  | [] => .ok []
  | name :: names =>
    match fs.follow links directory [name] with
    | .error e => .error (.entry e)
    | .ok place =>
      match _here : fs.get? place.location with
      | some (.file _) => (filesBelow fs enclosing links directory names).map ([name] :: ·)
      | some .directory =>
        if _again : place.location ∈ enclosing then .error .loop
        else
          match filesBelow fs (place.location :: enclosing) place.links place.location
              (fs.names place.location) with
          | .error e => .error e
          | .ok inner =>
            (filesBelow fs enclosing links directory names).map (inner.map (name :: ·) ++ ·)
      | _ => filesBelow fs enclosing links directory names
termination_by names => (unenclosed fs enclosing, names.length)
decreasing_by
  · exact Prod.Lex.right _ (Nat.lt_succ_self _)
  · exact Prod.Lex.left _ _ (unenclosed_lt _here _again)
  · exact Prod.Lex.right _ (Nat.lt_succ_self _)
  · exact Prod.Lex.right _ (Nat.lt_succ_self _)

def filesFrom (fs : FileSystem) (place : FileSystem.Reached) :
    Except WalkError (List (List Bytes)) :=
  match fs.get? place.location with
  | some (.file _) => .ok [[]]
  | some .directory =>
    filesBelow fs [place.location] place.links place.location (fs.names place.location)
  | _ => .ok []

def relative (names : List Bytes) : Bytes := [Bytes.slash].intercalate names

def pathBelow (directory : Path) (names : List Bytes) : Path :=
  if names.isEmpty then directory else directory.join ⟨relative names⟩

def search (fs : FileSystem) (settings : Settings) (directory : Path) : Except Failure (List Path) :=
  match fs.reach directory with
  | .error e => .error (.walkFailed directory (.entry e))
  | .ok place =>
    match filesFrom fs place with
    | .error e => .error (.walkFailed directory e)
    | .ok files =>
      .ok ((files.filter fun names => settings.selects (relative names)).map (pathBelow directory))

def expand (fs : FileSystem) (settings : Settings) (input : Path) : Except Failure (List Path) :=
  if fs.isFile input then .ok [input]
  else if fs.isDirectory input then search fs settings input
  else .error (.inputNotFound input)

def dropRepeats : List Path → List Path
  | a :: b :: paths => if a.same b then dropRepeats (a :: paths) else a :: dropRepeats (b :: paths)
  | paths => paths
termination_by paths => paths.length

/-- The model files of some inputs, or of a directory if there is no input, in the order of paths and each
once. -/
def models (fs : FileSystem) (settings : Settings) (inputs : List Path) (directory : Path) :
    Except Failure (List Path) := do
  let found ← if inputs.isEmpty then search fs settings directory
    else (inputs.mapM (expand fs settings)).map List.flatten
  return dropRepeats (found.mergeSort Path.le)

end ConventionLint.Discovery
