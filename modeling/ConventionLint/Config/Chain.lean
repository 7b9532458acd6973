import ConventionLint.Failure

/-!
Configurations that extend others.

A configuration names at most one base, so loading follows a chain of files. Every file of the chain is
remembered by its canonical path, and coming back to one is an error; since there are finitely many
files, the chain ends.
-/
namespace ConventionLint

namespace FileSystem

def unvisited (fs : FileSystem) (visited : List Path) : Nat :=
  fs.entries.countP fun entry => !visited.any (Path.ofLocation entry.1).same

theorem mem_of_textAt {fs : FileSystem} {location : Location} {text : String}
    (found : fs.textAt location = .ok text) : ∃ node, (location, node) ∈ fs.entries := by
  unfold textAt at found
  split at found
  · next looked => exact ⟨_, mem_entries_of_get? looked⟩
  · next looked => exact ⟨_, mem_entries_of_get? looked⟩
  · cases found

theorem unvisited_lt {fs : FileSystem} {visited : List Path} {location : Location} {text : String}
    (found : fs.textAt location = .ok text)
    (fresh : ¬ visited.any (Path.ofLocation location).same = true) :
    fs.unvisited (.ofLocation location :: visited) < fs.unvisited visited := by
  obtain ⟨node, inside⟩ := mem_of_textAt found
  refine countP_lt ?_ inside (by simpa using fresh) ?_
  · intro entry
    simp only [List.any_cons, Bool.not_or, Bool.and_eq_true]
    exact And.right
  · simp [Path.same]

end FileSystem

namespace Config

/-- The path of a base that a configuration names: relative to the configuration, and with the usual
extension if it has none. -/
def basePath (current : Path) (base : String) : Except Failure Path :=
  match current.parent? with
  | none => .error .noParentDirectory
  | some directory => .ok (directory.join (Path.withExtension ⟨base⟩ "json"))

def loadFrom (fs : FileSystem) (visited : List Path) (path : Path) : Except Failure Config :=
  if _fresh : visited.any (fs.canonical path).same then .error (.extendsCycle (fs.canonical path))
  else
    match _located : fs.locate path with
    | .error e => .error (.configUnreadable path e)
    | .ok location =>
      match _read : fs.textAt location with
      | .error e => .error (.configUnreadable path e)
      | .ok text =>
        match ofText text with
        | .error e => .error (.configInvalid path e)
        | .ok config =>
          match config.base with
          | none => .ok config
          | some base =>
            match basePath path base with
            | .error e => .error e
            | .ok next =>
              match loadFrom fs (fs.canonical path :: visited) next with
              | .error e => .error e
              | .ok below => .ok (config.onTopOf below)
termination_by fs.unvisited visited
decreasing_by
  have canonical : fs.canonical path = .ofLocation location := by
    simp [FileSystem.canonical, _located]
  rw [canonical] at _fresh ⊢
  exact FileSystem.unvisited_lt _read _fresh

def load (fs : FileSystem) (path : Path) : Except Failure Config := loadFrom fs [] path

/-- The configuration to use: the one that the project names, itself or by its directory, or the one in
the current directory, if there is one. -/
def find (fs : FileSystem) (project : Option Path) (cwd : Path) : Except Failure (Option Path) :=
  match project with
  | none =>
    let candidate := cwd.join ⟨configFileName⟩
    .ok (if fs.isFile candidate then some candidate else none)
  | some project =>
    let project := cwd.join project
    if fs.isDirectory project then
      let candidate := project.join ⟨configFileName⟩
      if fs.isFile candidate then .ok (some candidate) else .error (.noConfigIn project)
    else if fs.isFile project then .ok (some project)
    else .error (.configNotFound project)

end Config

end ConventionLint
