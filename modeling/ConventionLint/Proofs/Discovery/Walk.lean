import ConventionLint.Proofs.Discovery.Trails

/-!
What a search of a directory finds.

A search goes through the entries of a directory and of those below it, and remembers the directories
that it is in. It ends exactly if the directory can be searched, and then it has found the files that
names lead to. The settings decide which of them it takes, by their names below the directory.
-/
namespace ConventionLint.Discovery

open FileSystem (Reached)

def Walks (fs : FileSystem) (enclosing : List Location) (place : Reached) : Prop :=
  ∃ files, filesBelow fs enclosing place.links place.location (fs.names place.location) = .ok files

def Admits (fs : FileSystem) (enclosing : List Location) (place : Reached) (name : Bytes) : Prop :=
  ∃ next, fs.follow place.links place.location [name] = .ok next ∧
    (fs.get? next.location = some .directory →
      next.location ∉ enclosing ∧ Walks fs (next.location :: enclosing) next)

section Success

variable (fs : FileSystem)

theorem filesBelow_ok_iff (enclosing : List Location) (place : Reached) (names : List Bytes) :
    (∃ files, filesBelow fs enclosing place.links place.location names = .ok files) ↔
      ∀ name ∈ names, Admits fs enclosing place name := by
  induction names with
  | nil => simp [filesBelow]
  | cons name names ih =>
      have mapped : ∀ f : List (List Bytes) → List (List Bytes),
          (∃ files, (filesBelow fs enclosing place.links place.location names).map f = .ok files) ↔
            ∀ name ∈ names, Admits fs enclosing place name := by
        intro f
        rw [← ih]
        constructor
        · rintro ⟨files, found⟩
          obtain ⟨others, rest, _⟩ := (map_eq_ok_iff _ _ _).mp found
          exact ⟨others, rest⟩
        · rintro ⟨others, rest⟩
          exact ⟨f others, (map_eq_ok_iff _ _ _).mpr ⟨others, rest, rfl⟩⟩
      rw [List.forall_mem_cons]
      cases followed : fs.follow place.links place.location [name] with
      | error e => simp [filesBelow, followed, Admits]
      | ok next =>
          have here : Admits fs enclosing place name ↔ (fs.get? next.location = some .directory →
              next.location ∉ enclosing ∧ Walks fs (next.location :: enclosing) next) := by
            simp [Admits, followed]
          rw [filesBelow, followed, here]
          dsimp only
          split
          · next content found => simp [mapped, found]
          · next found =>
              split
              · next again => simp [found, again]
              · next fresh =>
                  simp only [found, fresh, not_false_eq_true, true_and, forall_const]
                  cases inner : filesBelow fs (next.location :: enclosing) next.links next.location
                      (fs.names next.location) with
                  | error e => simp [Walks, inner]
                  | ok files => simp [Walks, inner, mapped]
          · next notFile notDirectory =>
              rw [ih]
              exact ⟨fun rest => ⟨fun directory => absurd directory notDirectory, rest⟩, And.right⟩

theorem walks_iff (enclosing : List Location) (place : Reached) :
    Walks fs enclosing place ↔ ∀ name ∈ fs.names place.location, Admits fs enclosing place name :=
  filesBelow_ok_iff fs enclosing place (fs.names place.location)

/-- Below a place every entry is there, and no directory is met that is among some locations or leads
back to itself. -/
structure Clear (fs : FileSystem) (enclosing : List Location) (start : Reached) : Prop where
  entries : ∀ names place name, Trail fs start names place →
    fs.get? place.location = some .directory → name ∈ fs.names place.location →
    ∃ next, Trail fs place [name] next
  fresh : ∀ names place, Trail fs start names place → fs.get? place.location = some .directory →
    names ≠ [] → place.location ∉ enclosing
  acyclic : ∀ names more place again, Trail fs start names place →
    fs.get? place.location = some .directory → more ≠ [] → Trail fs place more again →
    again.location ≠ place.location

theorem Clear.step {fs : FileSystem} {enclosing : List Location} {start next : Reached} {name : Bytes}
    (clear : Clear fs enclosing start) (first : Trail fs start [name] next)
    (directory : fs.get? next.location = some .directory) :
    next.location ∉ enclosing ∧ Clear fs (next.location :: enclosing) next := by
  have longer : ∀ names place, Trail fs next names place → Trail fs start (name :: names) place :=
    fun names place rest => (trail_cons fs start name names place).mpr ⟨next, first, rest⟩
  refine ⟨clear.fresh [name] next first directory (by simp), ?_, ?_, ?_⟩
  · intro names place child trail
    exact clear.entries (name :: names) place child (longer names place trail)
  · intro names place trail isDirectory further member
    rcases List.mem_cons.mp member with same | outer
    · exact clear.acyclic [name] names next place first directory further trail same
    · exact clear.fresh (name :: names) place (longer names place trail) isDirectory (by simp) outer
  · intro names more place again trail
    exact clear.acyclic (name :: names) more place again (longer names place trail)

theorem walks_of_clear (enclosing : List Location) (start : Reached)
    (directory : fs.get? start.location = some .directory) (clear : Clear fs enclosing start) :
    Walks fs enclosing start := by
  generalize bound : unenclosed fs enclosing = measure
  induction measure using Nat.strongRecOn generalizing enclosing start with
  | ind measure ih =>
      apply (walks_iff fs enclosing start).mpr
      intro name listed
      obtain ⟨next, first⟩ :=
        clear.entries [] start name ((trail_nil fs start start).mpr rfl) directory listed
      refine ⟨next, first.2, fun isDirectory => ?_⟩
      obtain ⟨fresh, below⟩ := clear.step first isDirectory
      have fewer := unenclosed_lt isDirectory fresh
      exact ⟨fresh, ih _ (bound ▸ fewer) (next.location :: enclosing) next isDirectory below rfl⟩

theorem walks_along (enclosing : List Location) (start place : Reached) (names : List Bytes)
    (walks : Walks fs enclosing start) (inside : start.location ∈ enclosing)
    (trail : Trail fs start names place) (directory : fs.get? place.location = some .directory) :
    ∃ wider, Walks fs wider place ∧ place.location ∈ wider ∧
      (names ≠ [] → place.location ∉ enclosing) ∧ enclosing ⊆ wider := by
  induction names generalizing start enclosing with
  | nil =>
      cases (trail_nil fs start place).mp trail
      exact ⟨enclosing, walks, inside, fun more => absurd rfl more, fun _ member => member⟩
  | cons name names ih =>
      obtain ⟨_, listed⟩ := listed_of_trail fs start trail
      obtain ⟨next, first, rest⟩ := (trail_cons fs start name names place).mp trail
      obtain ⟨other, followed, admitted⟩ := (walks_iff fs enclosing start).mp walks name listed
      cases trail_unique fs start first ((trail_single fs start listed other).mpr followed)
      -- The next place is a directory, since the trail ends there or goes on from it.
      have isDirectory : fs.get? next.location = some .directory := by
        cases names with
        | nil =>
            cases (trail_nil fs next place).mp rest
            exact directory
        | cons second names => exact (listed_of_trail fs next rest).1
      obtain ⟨fresh, below⟩ := admitted isDirectory
      obtain ⟨wider, walksOn, member, later, grown⟩ :=
        ih (next.location :: enclosing) next below List.mem_cons_self rest
      refine ⟨wider, walksOn, member, fun _ again => ?_, ?_⟩
      · cases names with
        | nil =>
            cases (trail_nil fs next place).mp rest
            exact fresh again
        | cons second names => exact later (by simp) (List.mem_cons_of_mem _ again)
      · exact fun location outer => grown (List.mem_cons_of_mem _ outer)

theorem clear_of_walks (enclosing : List Location) (start : Reached)
    (inside : start.location ∈ enclosing) (walks : Walks fs enclosing start) :
    Clear fs enclosing start := by
  have along := fun names place => walks_along fs enclosing start place names walks inside
  constructor
  · intro names place name trail directory listed
    obtain ⟨wider, walksOn, _⟩ := along names place trail directory
    obtain ⟨next, followed, _⟩ := (walks_iff fs wider place).mp walksOn name listed
    exact ⟨next, (trail_single fs place listed next).mpr followed⟩
  · intro names place trail directory further
    obtain ⟨_, _, _, fresh, _⟩ := along names place trail directory
    exact fresh further
  · intro names more place again trail directory further trailAgain same
    obtain ⟨wider, walksOn, member, _⟩ := along names place trail directory
    rw [← same] at directory
    obtain ⟨_, _, _, fresh, _⟩ :=
      walks_along fs wider place again more walksOn member trailAgain directory
    exact fresh further (same ▸ member)

/-- A directory can be searched exactly if what is below it is clear. -/
theorem walkable_iff_clear (directory : Path) (start : Reached)
    (there : fs.reach directory = .ok start) :
    Walkable fs directory ↔ Clear fs [start.location] start := by
  have reaches := reaches_iff fs start directory there
  have nowhere : Trail fs start [] start := (trail_nil fs start start).mpr rfl
  constructor
  · intro walkable
    refine ⟨?_, ?_, ?_⟩
    · intro names place name trail isDirectory listed
      obtain ⟨_, reached⟩ := walkable.entries names place.location name
        ((reaches _ _).mpr ⟨place, trail, rfl⟩) isDirectory listed
      obtain ⟨last, whole, _⟩ := (reaches _ _).mp reached
      obtain ⟨middle, front, back⟩ := (trail_append fs start names [name] last).mp whole
      cases trail_unique fs start trail front
      exact ⟨last, back⟩
    · intro names place trail isDirectory further member
      have same := List.mem_singleton.mp member
      rw [same] at isDirectory
      exact walkable.acyclic [] names start.location ((reaches _ _).mpr ⟨start, nowhere, rfl⟩)
        isDirectory further ((reaches _ _).mpr ⟨place, trail, same⟩)
    · intro names more place again trail isDirectory further trailAgain same
      have whole := (trail_append fs start names more again).mpr ⟨place, trail, trailAgain⟩
      exact walkable.acyclic names more place.location ((reaches _ _).mpr ⟨place, trail, rfl⟩)
        isDirectory further ((reaches _ _).mpr ⟨again, whole, same⟩)
  · intro clear
    refine ⟨⟨start.location, (fs.locate_eq_ok_iff _ _).mpr ⟨start, there, rfl⟩⟩, ?_, ?_⟩
    · intro names parent name reached isDirectory listed
      obtain ⟨place, trail, rfl⟩ := (reaches _ _).mp reached
      obtain ⟨next, last⟩ := clear.entries names place name trail isDirectory listed
      have whole := (trail_append fs start names [name] next).mpr ⟨place, trail, last⟩
      exact ⟨next.location, (reaches _ _).mpr ⟨next, whole, rfl⟩⟩
    · intro names more location reached isDirectory further reachedAgain
      obtain ⟨place, trail, rfl⟩ := (reaches _ _).mp reached
      obtain ⟨again, whole, same⟩ := (reaches _ _).mp reachedAgain
      obtain ⟨middle, front, back⟩ := (trail_append fs start names more again).mp whole
      cases trail_unique fs start trail front
      exact clear.acyclic names more place again trail isDirectory further back same

theorem filesFrom_ok_iff (directory : Path) (start : Reached)
    (there : fs.reach directory = .ok start) :
    (∃ files, filesFrom fs start = .ok files) ↔ Walkable fs directory := by
  have elsewhere : fs.get? start.location ≠ some .directory → Clear fs [start.location] start := by
    intro other
    have stuck : ∀ names place, Trail fs start names place →
        fs.get? place.location ≠ some .directory := by
      intro names place trail
      cases names with
      | nil =>
          cases (trail_nil fs start place).mp trail
          exact other
      | cons name names => exact absurd (listed_of_trail fs start trail).1 other
    exact ⟨fun names place _ trail isDirectory => absurd isDirectory (stuck names place trail),
      fun names place trail isDirectory => absurd isDirectory (stuck names place trail),
      fun names _ place _ trail isDirectory => absurd isDirectory (stuck names place trail)⟩
  rw [walkable_iff_clear fs directory start there]
  unfold filesFrom
  split
  · next content file => exact iff_of_true ⟨_, rfl⟩ (elsewhere (by simp [file]))
  · next isDirectory =>
      exact ⟨clear_of_walks fs _ start (by simp), walks_of_clear fs _ start isDirectory⟩
  · next notFile notDirectory => exact iff_of_true ⟨_, rfl⟩ (elsewhere notDirectory)

end Success

section Files

variable (fs : FileSystem)

def LeadsToFile (start : Reached) (names : List Bytes) : Prop :=
  ∃ place content, Trail fs start names place ∧ fs.get? place.location = some (.file content)

def LeadsThrough (start : Reached) (entries names : List Bytes) : Prop :=
  ∃ name ∈ entries, ∃ rest next, names = name :: rest ∧
    fs.follow start.links start.location [name] = .ok next ∧ LeadsToFile fs next rest

variable {start next : Reached}

theorem leadsToFile_of_file {content : ByteArray}
    (here : fs.get? start.location = some (.file content)) (names : List Bytes) :
    LeadsToFile fs start names ↔ names = [] := by
  constructor
  · rintro ⟨place, _, trail, _⟩
    cases names with
    | nil => rfl
    | cons name names =>
        have directory := (listed_of_trail fs start trail).1
        rw [here] at directory
        cases directory
  · rintro rfl
    exact ⟨start, content, (trail_nil fs start start).mpr rfl, here⟩

theorem leadsToFile_of_directory (here : fs.get? start.location = some .directory)
    (names : List Bytes) :
    LeadsToFile fs start names ↔ LeadsThrough fs start (fs.names start.location) names := by
  constructor
  · rintro ⟨place, content, trail, file⟩
    cases names with
    | nil =>
        cases (trail_nil fs start place).mp trail
        rw [here] at file
        cases file
    | cons name rest =>
        obtain ⟨next, first, later⟩ := (trail_cons fs start name rest place).mp trail
        exact ⟨name, (listed_of_trail fs start trail).2, rest, next, rfl, first.2, place, content, later,
          file⟩
  · rintro ⟨name, listed, rest, next, rfl, followed, place, content, later, file⟩
    have first := (trail_single fs start listed next).mpr followed
    exact ⟨place, content, (trail_cons fs start name rest place).mpr ⟨next, first, later⟩, file⟩

theorem not_leadsToFile (notFile : ∀ content, fs.get? start.location ≠ some (.file content))
    (notDirectory : fs.get? start.location ≠ some .directory) (names : List Bytes) :
    ¬ LeadsToFile fs start names := by
  rintro ⟨place, content, trail, file⟩
  cases names with
  | nil =>
      cases (trail_nil fs start place).mp trail
      exact notFile content file
  | cons name names => exact notDirectory (listed_of_trail fs start trail).1

theorem leadsThrough_cons {name : Bytes} (entries names : List Bytes)
    (followed : fs.follow start.links start.location [name] = .ok next) :
    LeadsThrough fs start (name :: entries) names ↔
      (∃ rest, names = name :: rest ∧ LeadsToFile fs next rest) ∨
        LeadsThrough fs start entries names := by
  constructor
  · rintro ⟨first, listed, rest, place, rfl, found, leads⟩
    rcases List.mem_cons.mp listed with rfl | later
    · obtain rfl : next = place := Except.ok.inj (followed.symm.trans found)
      exact .inl ⟨rest, rfl, leads⟩
    · exact .inr ⟨first, later, rest, place, rfl, found, leads⟩
  · rintro (⟨rest, rfl, leads⟩ | ⟨first, later, rest, place, rfl, found, leads⟩)
    · exact ⟨name, List.mem_cons_self, rest, next, rfl, followed, leads⟩
    · exact ⟨first, List.mem_cons_of_mem name later, rest, place, rfl, found, leads⟩

theorem mem_filesBelow (enclosing : List Location) (links : Nat) (directory : Location)
    (entries : List Bytes) (files : List (List Bytes))
    (found : filesBelow fs enclosing links directory entries = .ok files) (names : List Bytes) :
    names ∈ files ↔ LeadsThrough fs ⟨directory, links⟩ entries names := by
  fun_induction filesBelow fs enclosing links directory entries generalizing files names with
  | case1 enclosing links directory =>
      cases found
      simp [LeadsThrough]
  | case2 enclosing links directory name entries e missing => cases found
  | case3 enclosing links directory name entries next followed content here ih =>
      obtain ⟨others, rest, rfl⟩ := (map_eq_ok_iff _ _ _).mp found
      rw [leadsThrough_cons fs entries names followed, List.mem_cons, ih others rest]
      simp only [leadsToFile_of_file fs here, exists_eq_right]
  | case4 enclosing links directory name entries next followed here again => cases found
  | case5 enclosing links directory name entries next followed here fresh e failed ih => cases found
  | case6 enclosing links directory name entries next followed here fresh inner below ihInner ih =>
      obtain ⟨others, rest, rfl⟩ := (map_eq_ok_iff _ _ _).mp found
      rw [leadsThrough_cons fs entries names followed, List.mem_append, ih others rest]
      simp only [leadsToFile_of_directory fs here, ← ihInner inner below, List.mem_map, eq_comm,
        and_comm]
  | case7 enclosing links directory name entries next followed notFile notDirectory ih =>
      rw [leadsThrough_cons fs entries names followed, ih files found]
      simp only [not_leadsToFile fs notFile notDirectory, and_false, exists_false, false_or]

theorem mem_filesFrom (files : List (List Bytes)) (found : filesFrom fs start = .ok files)
    (names : List Bytes) : names ∈ files ↔ LeadsToFile fs start names := by
  unfold filesFrom at found
  split at found
  · next content here =>
      cases found
      rw [leadsToFile_of_file fs here, List.mem_singleton]
  · next here =>
      rw [leadsToFile_of_directory fs here]
      exact mem_filesBelow fs _ _ _ _ files found names
  · next notFile notDirectory =>
      cases found
      simp [not_leadsToFile fs notFile notDirectory]

end Files

/-- A path leads to a file below a directory: its components are those of the directory and some
names. The patterns select the names: one that is included matches them, and none that is excluded. -/
def Selected (fs : FileSystem) (settings : Settings) (directory path : Path) : Prop :=
  ∃ names location content, path.components = directory.components ++ names.map .name ∧
    fs.locate path = .ok location ∧ fs.get? location = some (.file content) ∧
    (∃ pattern ∈ settings.included, pattern.isMatch ([Bytes.slash].intercalate names) = true) ∧
    ¬ ∃ pattern ∈ settings.excluded, pattern.isMatch ([Bytes.slash].intercalate names) = true

/-- Paths with a property. Of paths with the same components one stands for all. -/
structure Comprises (property : Path → Prop) (paths : List Path) : Prop where
  sound : ∀ path ∈ paths, property path
  complete : ∀ path, property path → ∃ kept ∈ paths, kept.components = path.components

theorem selects_iff (settings : Settings) (path : Bytes) :
    settings.selects path = true ↔ (∃ pattern ∈ settings.included, pattern.isMatch path = true) ∧
      ¬ ∃ pattern ∈ settings.excluded, pattern.isMatch path = true := by
  rw [Settings.selects, Bool.and_eq_true, Bool.not_eq_true', ← Bool.not_eq_true, Glob.anyMatch,
    Glob.anyMatch, List.any_eq_true, List.any_eq_true]

theorem search_of_walkable (fs : FileSystem) (settings : Settings) (directory : Path)
    (walkable : Walkable fs directory) :
    ∃ paths, search fs settings directory = .ok paths ∧
      Comprises (Selected fs settings directory) paths := by
  obtain ⟨location, located⟩ := walkable.there
  obtain ⟨start, there, rfl⟩ := (fs.locate_eq_ok_iff directory location).mp located
  obtain ⟨files, found⟩ := (filesFrom_ok_iff fs directory start there).mpr walkable
  have absolute := fs.isAbsolute_of_reach directory start there
  have searched : search fs settings directory = .ok
      ((files.filter fun names => settings.selects (relative names)).map (pathBelow directory)) := by
    simp only [search, there, found]
  refine ⟨_, searched, ?_, ?_⟩
  · intro path listed
    obtain ⟨names, kept, rfl⟩ := List.mem_map.mp listed
    obtain ⟨inside, taken⟩ := List.mem_filter.mp kept
    obtain ⟨place, content, ⟨proper, followed⟩, file⟩ := (mem_filesFrom fs files found names).mp inside
    have reached := (fs.reach_pathBelow directory names start there proper).trans followed
    exact ⟨names, place.location, content, Path.components_pathBelow directory names absolute proper,
      (fs.locate_eq_ok_iff _ _).mpr ⟨place, reached, rfl⟩, file, (selects_iff _ _).mp taken⟩
  · rintro path ⟨names, location, content, below, locatedFile, file, taken⟩
    obtain ⟨place, reached, rfl⟩ := (fs.locate_eq_ok_iff path location).mp locatedFile
    have trail := fs.follow_of_components directory path names start place there below reached
    have inside := (mem_filesFrom fs files found names).mpr ⟨place, content, trail, file⟩
    refine ⟨pathBelow directory names, List.mem_map_of_mem ?_, ?_⟩
    · exact List.mem_filter.mpr ⟨inside, (selects_iff settings _).mpr taken⟩
    · rw [below, Path.components_pathBelow directory names absolute trail.1]

theorem search_of_not_walkable (fs : FileSystem) (directory : Path)
    (fails : ¬ Walkable fs directory) :
    ∃ failure, ∀ settings, search fs settings directory = .error failure := by
  cases there : fs.reach directory with
  | error e => exact ⟨_, fun settings => by simp only [search, there]; rfl⟩
  | ok start =>
      cases found : filesFrom fs start with
      | error e => exact ⟨_, fun settings => by simp only [search, there, found]; rfl⟩
      | ok files => exact absurd ((filesFrom_ok_iff fs directory start there).mp ⟨files, found⟩) fails

theorem search_ok_iff (fs : FileSystem) (settings : Settings) (directory : Path) :
    (∃ paths, search fs settings directory = .ok paths) ↔ Walkable fs directory := by
  constructor
  · rintro ⟨paths, found⟩
    by_contra stuck
    obtain ⟨failure, fails⟩ := search_of_not_walkable fs directory stuck
    cases found.symm.trans (fails settings)
  · intro walkable
    obtain ⟨paths, found, _⟩ := search_of_walkable fs settings directory walkable
    exact ⟨paths, found⟩

end ConventionLint.Discovery
