import ConventionLint.Path

/-!
File systems: a finite table from locations to files, directories and symbolic links.

A location is the list of names that leads to an entry from the root, without links. A path is looked
up from the root, name by name; links on the way are followed, forty at most. Every path that a run
looks up starts at the root, because a run puts its current directory in front of the others; so there
is no other place to start from here, and a relative path leads nowhere.
-/
namespace ConventionLint

abbrev Location := List Bytes

inductive Node where
  | file (content : ByteArray)
  | directory
  | link (target : Path)

inductive FileError where
  | notFound
  | notADirectory
  | isADirectory
  | tooManyLinks
  | notText
  deriving DecidableEq, Repr

def FileError.message : FileError → String
  | notFound => "No such file or directory (os error 2)"
  | notADirectory => "Not a directory (os error 20)"
  | isADirectory => "Is a directory (os error 21)"
  | tooManyLinks => "Too many levels of symbolic links (os error 40)"
  | notText => "stream did not contain valid UTF-8"

structure FileSystem where
  entries : List (Location × Node)

def Path.ofLocation (location : Location) : Path :=
  ⟨Bytes.slash :: [Bytes.slash].intercalate location⟩

/-- A name that a path can have: it has no slash, and it is none of the pieces that have a meaning of
their own. -/
def Path.isName (segment : Bytes) : Bool :=
  !isIdle segment && segment != upward && !segment.contains Bytes.slash

namespace FileSystem

/-- Where a path leads, and how many more links may be followed from there. -/
structure Reached where
  location : Location
  links : Nat
  deriving DecidableEq, Repr

def empty : FileSystem := ⟨[([], .directory)]⟩

def get? (fs : FileSystem) (location : Location) : Option Node :=
  fs.entries.findSome? fun (entry, node) => if entry = location then some node else none

def isDirectoryAt (fs : FileSystem) (location : Location) : Bool :=
  match fs.get? location with
  | some .directory => true
  | _ => false

def follow (fs : FileSystem) (links : Nat) (location : Location) :
    List Bytes → Except FileError Reached
  | [] => .ok ⟨location, links⟩
  | segment :: segments =>
    if fs.isDirectoryAt location then
      if Path.isIdle segment then fs.follow links location segments
      else if segment = Path.upward then fs.follow links location.dropLast segments
      else
        match fs.get? (location ++ [segment]) with
        | none => .error .notFound
        | some (.link target) =>
          match links with
          | 0 => .error .tooManyLinks
          | links + 1 =>
            fs.follow links (if target.isAbsolute then [] else location) (target.segments ++ segments)
        | some _ => fs.follow links (location ++ [segment]) segments
    else .error .notADirectory
termination_by segments => (links, segments.length)

def reach (fs : FileSystem) (path : Path) : Except FileError Reached :=
  if path.isAbsolute then fs.follow 40 [] path.segments else .error .notFound

def locate (fs : FileSystem) (path : Path) : Except FileError Location :=
  (fs.reach path).map Reached.location

def isFile (fs : FileSystem) (path : Path) : Bool :=
  match fs.locate path with
  | .error _ => false
  | .ok location =>
    match fs.get? location with
    | some (.file _) => true
    | _ => false

def isDirectory (fs : FileSystem) (path : Path) : Bool :=
  match fs.locate path with
  | .error _ => false
  | .ok location => fs.isDirectoryAt location

def textAt (fs : FileSystem) (location : Location) : Except FileError String :=
  match fs.get? location with
  | some (.file content) =>
    match String.fromUTF8? content with
    | some text => .ok text
    | none => .error .notText
  | some .directory => .error .isADirectory
  | _ => .error .notFound

def readText (fs : FileSystem) (path : Path) : Except FileError String :=
  match fs.locate path with
  | .error e => .error e
  | .ok location => fs.textAt location

/-- The one path of the entry that a path leads to; a path that leads nowhere stands for itself. -/
def canonical (fs : FileSystem) (path : Path) : Path :=
  match fs.locate path with
  | .error _ => path
  | .ok location => .ofLocation location

def names (fs : FileSystem) (location : Location) : List Bytes :=
  (fs.entries.filterMap fun (entry, _) =>
    match entry.getLast? with
    | some name => if entry.dropLast = location ∧ Path.isName name then some name else none
    | none => none).mergeSort Bytes.le

def directories (fs : FileSystem) : List Location :=
  fs.entries.filterMap fun (location, node) =>
    match node with
    | .directory => some location
    | _ => none

theorem mem_entries_of_get? {fs : FileSystem} {location : Location} {node : Node}
    (found : fs.get? location = some node) : (location, node) ∈ fs.entries := by
  obtain ⟨⟨entry, other⟩, member, taken⟩ := List.exists_of_findSome?_eq_some found
  obtain ⟨rfl, same⟩ := Option.ite_none_right_eq_some.mp taken
  exact Option.some.inj same ▸ member

theorem mem_directories {fs : FileSystem} {location : Location}
    (found : fs.get? location = some .directory) : location ∈ fs.directories :=
  List.mem_filterMap.mpr ⟨_, mem_entries_of_get? found, rfl⟩

theorem countP_lt {α : Type} {p q : α → Bool} {entries : List α} {entry : α}
    (weaker : ∀ x, q x = true → p x = true) (inside : entry ∈ entries) (before : p entry = true)
    (after : q entry = false) : entries.countP q < entries.countP p := by
  induction entries with
  | nil => cases inside
  | cons first entries ih =>
      have le : entries.countP q ≤ entries.countP p := List.countP_mono_left fun x _ => weaker x
      rw [List.countP_cons, List.countP_cons]
      rcases List.mem_cons.mp inside with rfl | later
      · rw [before, after]
        exact Nat.lt_succ_of_le le
      · have step := ih later
        split
        · next passes =>
            rw [if_pos (weaker first passes)]
            exact Nat.succ_lt_succ step
        · exact Nat.lt_of_lt_of_le step (Nat.le_add_right _ _)

def erase (fs : FileSystem) (location : Location) : FileSystem :=
  ⟨fs.entries.filter fun (entry, _) => !location.isPrefixOf entry⟩

def ensureDirectory (fs : FileSystem) (location : Location) : FileSystem :=
  ⟨fs.entries ++
    ((List.range (location.length + 1)).map location.take |>.filter fun above => (fs.get? above).isNone).map
      fun above => (above, .directory)⟩

def put (fs : FileSystem) (location : Location) (node : Node) : FileSystem :=
  let fs := (fs.erase location).ensureDirectory location.dropLast
  ⟨fs.entries ++ [(location, node)]⟩

end FileSystem

end ConventionLint
