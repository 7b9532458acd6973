import ConventionLint.Proofs.FileSystem.Following

/-!
Directories that can be searched at any depth.

Below a directory, names lead from entry to entry. A search has an end if every entry that it meets is
there and no directory is met again inside itself. Where there are no links this is always so.
-/
namespace ConventionLint.Discovery

open FileSystem (Reached)

/-- A path that has the components of a directory and then some names leads to a location. -/
def Reaches (fs : FileSystem) (directory : Path) (names : List Bytes) (location : Location) : Prop :=
  ∃ path : Path, path.components = directory.components ++ names.map .name ∧
    fs.locate path = .ok location

/-- A directory that can be searched: no entry below it dangles, and no directory leads back to
itself. -/
structure Walkable (fs : FileSystem) (directory : Path) : Prop where
  there : ∃ location, fs.locate directory = .ok location
  entries : ∀ names parent name, Reaches fs directory names parent →
    fs.get? parent = some .directory → name ∈ fs.names parent →
    ∃ location, Reaches fs directory (names ++ [name]) location
  acyclic : ∀ names more location, Reaches fs directory names location →
    fs.get? location = some .directory → more ≠ [] →
    ¬ Reaches fs directory (names ++ more) location

/-- There are no links below a location. -/
def LinkFree (fs : FileSystem) (location : Location) : Prop :=
  ∀ below target, fs.get? (location ++ below) ≠ some (.link target)

def Trail (fs : FileSystem) (start : Reached) (names : List Bytes) (place : Reached) : Prop :=
  (∀ name ∈ names, Path.isName name = true) ∧
    fs.follow start.links start.location names = .ok place

section Trails

variable (fs : FileSystem) (start : Reached)

theorem trail_nil (place : Reached) : Trail fs start [] place ↔ start = place := by
  simp [Trail, FileSystem.follow]

theorem trail_append (front back : List Bytes) (place : Reached) :
    Trail fs start (front ++ back) place ↔
      ∃ middle, Trail fs start front middle ∧ Trail fs middle back place := by
  unfold Trail
  rw [FileSystem.follow_append, List.forall_mem_append]
  constructor
  · rintro ⟨⟨fronts, backs⟩, followed⟩
    obtain ⟨middle, first, second⟩ := (bind_eq_ok_iff _ _ _).mp followed
    exact ⟨middle, ⟨fronts, first⟩, ⟨backs, second⟩⟩
  · rintro ⟨middle, ⟨fronts, first⟩, ⟨backs, second⟩⟩
    exact ⟨⟨fronts, backs⟩, (bind_eq_ok_iff _ _ _).mpr ⟨middle, first, second⟩⟩

theorem trail_cons (name : Bytes) (names : List Bytes) (place : Reached) :
    Trail fs start (name :: names) place ↔
      ∃ next, Trail fs start [name] next ∧ Trail fs next names place :=
  trail_append fs start [name] names place

theorem trail_unique {names : List Bytes} {place other : Reached}
    (trail : Trail fs start names place) (again : Trail fs start names other) : place = other :=
  Except.ok.inj (trail.2.symm.trans again.2)

theorem listed_of_trail {name : Bytes} {names : List Bytes} {place : Reached}
    (trail : Trail fs start (name :: names) place) :
    fs.get? start.location = some .directory ∧ name ∈ fs.names start.location := by
  obtain ⟨next, first, _⟩ := (trail_cons fs start name names place).mp trail
  exact fs.mem_names_of_follow _ _ _ (first.1 name List.mem_cons_self) next first.2

theorem isName_of_mem_names {location : Location} {name : Bytes} (listed : name ∈ fs.names location) :
    Path.isName name = true :=
  ((fs.mem_names_iff location name).mp listed).1

theorem trail_single {name : Bytes} (listed : name ∈ fs.names start.location) (place : Reached) :
    Trail fs start [name] place ↔ fs.follow start.links start.location [name] = .ok place := by
  simp [Trail, isName_of_mem_names fs listed]

theorem reaches_iff (directory : Path) (there : fs.reach directory = .ok start)
    (names : List Bytes) (location : Location) :
    Reaches fs directory names location ↔
      ∃ place, Trail fs start names place ∧ place.location = location := by
  constructor
  · rintro ⟨path, below, located⟩
    obtain ⟨place, reached, same⟩ := (fs.locate_eq_ok_iff path location).mp located
    exact ⟨place, fs.follow_of_components directory path names start place there below reached, same⟩
  · rintro ⟨place, ⟨proper, followed⟩, same⟩
    have absolute := fs.isAbsolute_of_reach directory start there
    refine ⟨pathBelow directory names, Path.components_pathBelow directory names absolute proper, ?_⟩
    apply (fs.locate_eq_ok_iff _ _).mpr
    exact ⟨place, (fs.reach_pathBelow directory names start there proper).trans followed, same⟩

end Trails

section LinkFree

variable (fs : FileSystem)

theorem LinkFree.below {fs : FileSystem} {location : Location} (free : LinkFree fs location)
    (names : List Bytes) : LinkFree fs (location ++ names) := by
  intro below target
  rw [List.append_assoc]
  exact free (names ++ below) target

theorem LinkFree.follow {fs : FileSystem} (start : Reached) (free : LinkFree fs start.location)
    (directory : fs.get? start.location = some .directory) (name : Bytes)
    (listed : name ∈ fs.names start.location) :
    Trail fs start [name] ⟨start.location ++ [name], start.links⟩ := by
  obtain ⟨proper, node, found⟩ := (fs.mem_names_iff start.location name).mp listed
  apply (trail_single fs start listed _).mpr
  apply fs.follow_of_not_link start name node proper directory found
  rintro target rfl
  exact free [name] target found

theorem LinkFree.trail {fs : FileSystem} (start place : Reached) (free : LinkFree fs start.location)
    (names : List Bytes) (trail : Trail fs start names place) :
    place = ⟨start.location ++ names, start.links⟩ := by
  induction names generalizing start with
  | nil => simp [(trail_nil fs start place).mp trail]
  | cons name names ih =>
      obtain ⟨directory, listed⟩ := listed_of_trail fs start trail
      obtain ⟨next, first, rest⟩ := (trail_cons fs start name names place).mp trail
      cases trail_unique fs start first (free.follow start directory name listed)
      rw [ih ⟨start.location ++ [name], start.links⟩ (free.below [name]) rest, List.append_assoc]
      rfl

/-- A directory without links below it can be searched, however deep it is. -/
theorem walkable_of_linkFree (directory : Path) (location : Location)
    (located : fs.locate directory = .ok location) (free : LinkFree fs location) :
    Walkable fs directory := by
  obtain ⟨start, there, rfl⟩ := (fs.locate_eq_ok_iff directory location).mp located
  have reaches := reaches_iff fs start directory there
  refine ⟨⟨_, located⟩, ?_, ?_⟩
  · intro names parent name reached isDirectory listed
    obtain ⟨place, trail, rfl⟩ := (reaches names parent).mp reached
    have below : LinkFree fs place.location := by
      rw [free.trail start place names trail]
      exact free.below names
    have last := below.follow place isDirectory name listed
    exact ⟨_, (reaches _ _).mpr ⟨_, (trail_append fs start names [name] _).mpr ⟨place, trail, last⟩, rfl⟩⟩
  · intro names more location reached _ further again
    obtain ⟨place, trail, rfl⟩ := (reaches names location).mp reached
    obtain ⟨other, trailAgain, same⟩ := (reaches (names ++ more) place.location).mp again
    rw [free.trail start place names trail, free.trail start other _ trailAgain,
      ← List.append_assoc] at same
    exact further (List.append_right_eq_self.mp same)

end LinkFree

end ConventionLint.Discovery
