import ConventionLint.Config.Chain
import ConventionLint.Proofs.FileSystem.Following
import Mathlib.Data.List.DropRight

/-!
What loading a configuration gives, told by the chain of files that it goes through.

The chain is followed from path to path, as long as there is a configuration to read that names a
base. It cannot go on forever, since every file on it is another entry of the file system. Where it
stops decides the outcome; if that is no error, each list of patterns comes from the nearest
configuration that sets it.
-/
namespace ConventionLint

namespace FileSystem

theorem readText_of_locate (fs : FileSystem) (path : Path) (location : Location)
    (located : fs.locate path = .ok location) : fs.readText path = fs.textAt location := by
  rw [readText, located]

theorem textAt_root (fs : FileSystem) (links : Nat) (segment : Bytes) (segments : List Bytes)
    (place : Reached) (followed : fs.follow links [] (segment :: segments) = .ok place)
    (text : String) : fs.textAt [] ≠ .ok text := by
  intro found
  rw [follow] at followed
  split at followed
  · next directory =>
      unfold isDirectoryAt at directory
      unfold textAt at found
      split at directory
      · next root =>
          rw [root] at found
          cases found
      · cases directory
  · cases followed

end FileSystem

namespace Path

theorem idle_of_parent_eq_none (path : Path) (orphan : path.parent? = none) :
    ∀ segment ∈ path.segments, isIdle segment = true := by
  unfold parent? at orphan
  cases pieces : path.segments with
  | nil => simp
  | cons first rest =>
      rw [pieces] at orphan
      simp only [trim] at orphan
      split at orphan
      · next impossible => cases impossible
      · next only =>
          obtain ⟨rfl, trimmed⟩ := List.cons.inj only
          split at orphan
          · next blank =>
              intro segment member
              rcases List.mem_cons.mp member with rfl | later
              · rw [blank]
                rfl
              · exact List.rdropWhile_eq_nil_iff.mp trimmed segment later
          · cases orphan
      · cases orphan

end Path

theorem FileSystem.parent_of_readText (fs : FileSystem) (path : Path) (text : String)
    (read : fs.readText path = .ok text) : ∃ directory, path.parent? = some directory := by
  cases orphan : path.parent? with
  | some directory => exact ⟨directory, rfl⟩
  | none =>
      obtain ⟨location, located, found⟩ := fs.locate_of_readText path text read
      obtain ⟨place, reached, rfl⟩ := (fs.locate_eq_ok_iff path location).mp located
      rw [reach, if_pos (fs.isAbsolute_of_reach path place reached)] at reached
      have root := fs.follow_idle 40 [] path.segments place (path.idle_of_parent_eq_none orphan) reached
      subst root
      cases pieces : path.segments with
      | nil => exact absurd pieces (Path.split_ne_nil path.bytes)
      | cons segment segments =>
          rw [pieces] at reached
          exact absurd found (fs.textAt_root 40 segment segments _ reached text)

namespace Config

structure Link where
  path : Path
  config : Config

def Link.canonical (fs : FileSystem) (link : Link) : Path := fs.canonical link.path

/-- The links of a chain from one path to another. Each has a configuration that names a base, and the
base is the path that follows. -/
inductive Leads (fs : FileSystem) : Path → List Link → Path → Prop
  | stay (path : Path) : Leads fs path [] path
  | step (path next last : Path) (text base : String) (config : Config) (links : List Link)
      (read : fs.readText path = .ok text) (parsed : ofText text = .ok config)
      (named : config.base = some base) (resolved : basePath path base = .ok next)
      (rest : Leads fs next links last) : Leads fs path (⟨path, config⟩ :: links) last

def Revisits (fs : FileSystem) (seen : List Path) (path : Path) : Prop :=
  ∃ earlier ∈ seen, (fs.canonical path).same earlier = true

/-- What loading gives if the chain has gone through some configurations and stops at a path. -/
inductive Decides (fs : FileSystem) (seen : List Path) (configs : List Config) (last : Path) :
    Except Failure Config → Prop
  | cycle (again : Revisits fs seen last) :
      Decides fs seen configs last (.error (.extendsCycle (fs.canonical last)))
  | unreadable (e : FileError) (fresh : ¬ Revisits fs seen last)
      (read : fs.readText last = .error e) :
      Decides fs seen configs last (.error (.configUnreadable last e))
  | invalid (text : String) (e : ConfigError) (fresh : ¬ Revisits fs seen last)
      (read : fs.readText last = .ok text) (parsed : ofText text = .error e) :
      Decides fs seen configs last (.error (.configInvalid last e))
  | ended (text : String) (config result : Config) (fresh : ¬ Revisits fs seen last)
      (read : fs.readText last = .ok text) (parsed : ofText text = .ok config)
      (unnamed : config.base = none) (base : result.base = none)
      (included : result.included = (configs ++ [config]).findSome? Config.included)
      (excluded : result.excluded = (configs ++ [config]).findSome? Config.excluded) :
      Decides fs seen configs last (.ok result)

def Apart (fs : FileSystem) (seen : List Path) : List Link → Prop
  | [] => True
  | link :: links =>
    ¬ Revisits fs seen link.path ∧ Apart fs (link.canonical fs :: seen) links

theorem revisits_iff (fs : FileSystem) (seen : List Path) (path : Path) :
    Revisits fs seen path ↔ seen.any (fs.canonical path).same = true := by
  rw [List.any_eq_true]
  rfl

theorem revisits_middle (fs : FileSystem) (before after : List Path) (here path : Path) :
    Revisits fs (before ++ here :: after) path ↔ Revisits fs (here :: before ++ after) path := by
  constructor
  · rintro ⟨earlier, member, same⟩
    exact ⟨earlier, List.perm_middle.mem_iff.mp member, same⟩
  · rintro ⟨earlier, member, same⟩
    exact ⟨earlier, List.perm_middle.mem_iff.mpr member, same⟩

theorem Decides.cons (fs : FileSystem) (seen seen' : List Path) (configs : List Config)
    (last : Path) (outcome : Except Failure Config) (config : Config)
    (same : Revisits fs seen last ↔ Revisits fs seen' last)
    (decided : Decides fs seen configs last outcome) :
    Decides fs seen' (config :: configs) last (outcome.map config.onTopOf) := by
  cases decided with
  | cycle again => exact .cycle (same.mp again)
  | unreadable e fresh read => exact .unreadable e (fresh ∘ same.mpr) read
  | invalid text e fresh read parsed => exact .invalid text e (fresh ∘ same.mpr) read parsed
  | ended text final result fresh read parsed unnamed base included excluded =>
      refine .ended text final _ (fresh ∘ same.mpr) read parsed unnamed rfl ?_ ?_
      · change (config.included <|> result.included) = _
        rw [included, List.cons_append, List.findSome?_cons]
        cases config.included with
        | none => rfl
        | some patterns => rfl
      · change (config.excluded <|> result.excluded) = _
        rw [excluded, List.cons_append, List.findSome?_cons]
        cases config.excluded with
        | none => rfl
        | some patterns => rfl

def Explained (fs : FileSystem) (visited : List Path) (path : Path)
    (outcome : Except Failure Config) : Prop :=
  ∃ links last, Leads fs path links last ∧ Apart fs visited links ∧
    links.length ≤ fs.unvisited visited ∧
    Decides fs (links.map (Link.canonical fs) ++ visited) (links.map Link.config) last outcome

theorem explained_here (fs : FileSystem) (visited : List Path) (path : Path)
    (outcome : Except Failure Config) (decided : Decides fs visited [] path outcome) :
    Explained fs visited path outcome :=
  ⟨[], path, .stay path, trivial, Nat.zero_le _, decided⟩

theorem explained_step (fs : FileSystem) (visited : List Path) (path next : Path)
    (location : Location) (text base : String) (config : Config)
    (below : Except Failure Config) (fresh : ¬ Revisits fs visited path)
    (located : fs.locate path = .ok location) (found : fs.textAt location = .ok text)
    (parsed : ofText text = .ok config) (named : config.base = some base)
    (resolved : basePath path base = .ok next)
    (explained : Explained fs (fs.canonical path :: visited) next below) :
    Explained fs visited path (below.map config.onTopOf) := by
  obtain ⟨links, last, leads, apart, short, decided⟩ := explained
  have read := (fs.readText_of_locate path location located).trans found
  have canonical : fs.canonical path = .ofLocation location := by
    rw [FileSystem.canonical, located]
  have fewer : fs.unvisited (fs.canonical path :: visited) < fs.unvisited visited := by
    rw [canonical]
    apply FileSystem.unvisited_lt found
    rw [← canonical, ← revisits_iff]
    exact fresh
  refine ⟨⟨path, config⟩ :: links, last,
    .step path next last text base config links read parsed named resolved leads,
    ⟨fresh, apart⟩, Nat.lt_of_le_of_lt short fewer, ?_⟩
  exact decided.cons fs _ _ _ last below config (revisits_middle fs _ visited _ last)

theorem loadFrom_explained (fs : FileSystem) (visited : List Path) (path : Path) :
    Explained fs visited path (loadFrom fs visited path) := by
  fun_induction loadFrom fs visited path with
  | case1 visited path again =>
      exact explained_here fs visited path _ (.cycle ((revisits_iff fs visited path).mpr again))
  | case2 visited path fresh e located =>
      rw [← revisits_iff] at fresh
      have read : fs.readText path = .error e := by rw [FileSystem.readText, located]
      exact explained_here fs visited path _ (.unreadable e fresh read)
  | case3 visited path fresh location located e found =>
      rw [← revisits_iff] at fresh
      have read := (fs.readText_of_locate path location located).trans found
      exact explained_here fs visited path _ (.unreadable e fresh read)
  | case4 visited path fresh location located text found e parsed =>
      rw [← revisits_iff] at fresh
      have read := (fs.readText_of_locate path location located).trans found
      exact explained_here fs visited path _ (.invalid text e fresh read parsed)
  | case5 visited path fresh location located text found config parsed unnamed =>
      rw [← revisits_iff] at fresh
      have read := (fs.readText_of_locate path location located).trans found
      apply explained_here
      refine .ended text config config fresh read parsed unnamed unnamed ?_ ?_
      · cases patterns : config.included with
        | none => simp [patterns]
        | some texts => simp [patterns]
      · cases patterns : config.excluded with
        | none => simp [patterns]
        | some texts => simp [patterns]
  | case6 visited path fresh location located text found config parsed base named e missing =>
      -- This cannot happen: what was read is in a directory.
      have read := (fs.readText_of_locate path location located).trans found
      obtain ⟨directory, parent⟩ := fs.parent_of_readText path text read
      rw [basePath, parent] at missing
      cases missing
  | case7 visited path fresh location located text found config parsed base named next resolved e
      failed ih =>
      rw [← revisits_iff] at fresh
      rw [failed] at ih
      exact explained_step fs visited path next location text base config _ fresh located found
        parsed named resolved ih
  | case8 visited path fresh location located text found config parsed base named next resolved
      below loaded ih =>
      rw [← revisits_iff] at fresh
      rw [loaded] at ih
      exact explained_step fs visited path next location text base config _ fresh located found
        parsed named resolved ih

def GoesOn (fs : FileSystem) (seen : List Path) (path : Path) : Prop :=
  ¬ Revisits fs seen path ∧ ∃ text config base, fs.readText path = .ok text ∧
    ofText text = .ok config ∧ config.base = some base

theorem Decides.stops (fs : FileSystem) (seen : List Path) (configs : List Config) (path : Path)
    (outcome : Except Failure Config) (decided : Decides fs seen configs path outcome) :
    ¬ GoesOn fs seen path := by
  rintro ⟨fresh, text, config, base, read, parsed, named⟩
  cases decided with
  | cycle again => exact fresh again
  | unreadable e _ failed =>
      rw [read] at failed
      cases failed
  | invalid other e _ again failed =>
      cases read.symm.trans again
      cases parsed.symm.trans failed
  | ended other final result _ again parsedAgain unnamed =>
      cases read.symm.trans again
      cases parsed.symm.trans parsedAgain
      cases named.symm.trans unnamed

theorem leads_unique (fs : FileSystem) (visited : List Path) (path first second : Path)
    (links others : List Link) (leads : Leads fs path links first)
    (leads' : Leads fs path others second) (apart : Apart fs visited links)
    (apart' : Apart fs visited others)
    (stops : ¬ GoesOn fs (links.map (Link.canonical fs) ++ visited) first)
    (stops' : ¬ GoesOn fs (others.map (Link.canonical fs) ++ visited) second) :
    others = links ∧ second = first := by
  induction leads generalizing visited others with
  | stay path =>
      cases leads' with
      | stay => exact ⟨rfl, rfl⟩
      | step _ next _ text base config rest read parsed named resolved leads' =>
          exact absurd ⟨apart'.1, text, config, base, read, parsed, named⟩ stops
  | step path next last text base config links read parsed named resolved leads ih =>
      cases leads' with
      | stay => exact absurd ⟨apart.1, text, config, base, read, parsed, named⟩ stops'
      | step _ next' _ text' base' config' rest read' parsed' named' resolved' leads' =>
          cases read.symm.trans read'
          cases parsed.symm.trans parsed'
          cases named.symm.trans named'
          cases resolved.symm.trans resolved'
          have moved := revisits_middle fs (links.map (Link.canonical fs)) visited
            (fs.canonical path) last
          have moved' := revisits_middle fs (rest.map (Link.canonical fs)) visited
            (fs.canonical path) second
          have same := ih (fs.canonical path :: visited) rest leads' apart.2 apart'.2
            (fun on => stops ⟨on.1 ∘ moved.mpr, on.2⟩) (fun on => stops' ⟨on.1 ∘ moved'.mpr, on.2⟩)
          exact ⟨by rw [same.1], same.2⟩

/-- Loading a configuration follows the chain of its bases, past at most as many files as the file
system has, to the first path that was visited before under some name, cannot be read, holds no
configuration, or names no base. There is exactly one such chain, and the outcome is the one that
belongs to the path where it stops. The paths that a run starts from are absolute; a chain from any
other path stops there, because it leads nowhere. -/
theorem load_decided_by_chain (fs : FileSystem) (start : Path) :
    ∃ links last, Leads fs start links last ∧ Apart fs [] links ∧
      links.length ≤ fs.entries.length ∧
      Decides fs (links.map (Link.canonical fs)) (links.map Link.config) last (load fs start) ∧
      ∀ others final outcome, Leads fs start others final → Apart fs [] others →
        Decides fs (others.map (Link.canonical fs)) (others.map Link.config) final outcome →
        others = links ∧ final = last := by
  obtain ⟨links, last, leads, apart, short, decided⟩ := loadFrom_explained fs [] start
  rw [List.append_nil] at decided
  refine ⟨links, last, leads, apart, short.trans List.countP_le_length, decided, ?_⟩
  intro others final outcome leads' apart' decided'
  apply leads_unique fs [] start last final links others leads leads' apart apart'
  · rw [List.append_nil]
    exact decided.stops
  · rw [List.append_nil]
    exact decided'.stops

end Config

end ConventionLint
