import ConventionLint.Proofs.Discovery.Order
import ConventionLint.Proofs.Discovery.Walk
import Mathlib.Data.List.Permutation
import Mathlib.Data.List.Sort

/-!
The model files of some inputs, whatever the order of the inputs.

Paths are the same if they have the same components, and they are ordered component by component. The
models of some inputs are the files among them, and the files that searches of the directories among
them select, each once and in the order of paths. So they depend only on which inputs there are.
-/
namespace ConventionLint

namespace Discovery

theorem exists_kept (paths : List Path) (path : Path) (member : path ∈ paths) :
    ∃ kept ∈ dropRepeats paths, kept.key = path.key := by
  fun_induction dropRepeats paths generalizing path with
  | case1 a b paths same ih =>
      rcases List.mem_cons.mp member with rfl | later
      · exact ih path List.mem_cons_self
      · rcases List.mem_cons.mp later with rfl | last
        · obtain ⟨kept, stays, equal⟩ := ih a List.mem_cons_self
          exact ⟨kept, stays, equal.trans (of_decide_eq_true same)⟩
        · exact ih path (List.mem_cons_of_mem a last)
  | case2 a b paths differ ih =>
      rcases List.mem_cons.mp member with rfl | later
      · exact ⟨path, List.mem_cons_self, rfl⟩
      · obtain ⟨kept, stays, equal⟩ := ih path later
        exact ⟨kept, List.mem_cons_of_mem a stays, equal⟩
  | case3 paths short => exact ⟨path, member, rfl⟩

section Inputs

variable (fs : FileSystem) (settings : Settings) (inputs : List Path) (directory : Path)

def gathered : Except Failure (List Path) :=
  if inputs.isEmpty then search fs settings directory
  else (inputs.mapM (expand fs settings)).map List.flatten

theorem models_eq : models fs settings inputs directory =
    (gathered fs settings inputs directory).map fun found => dropRepeats (found.mergeSort Path.le) := by
  unfold models gathered
  split
  · cases search fs settings directory with
    | error failure => rfl
    | ok found => rfl
  · cases (inputs.mapM (expand fs settings)).map List.flatten with
    | error failure => rfl
    | ok found => rfl

def Searched (root : Path) : Prop :=
  (root ∈ inputs ∧ fs.isDirectory root = true) ∨ (inputs = [] ∧ root = directory)

def Eligible (path : Path) : Prop :=
  (path ∈ inputs ∧ fs.isFile path = true) ∨
    ∃ root, Searched fs inputs directory root ∧ Selected fs settings root path

/-- An input that is neither a file nor a directory. -/
def Missing (input : Path) : Prop := fs.isFile input = false ∧ fs.isDirectory input = false

theorem not_isDirectory_of_isFile (path : Path) (file : fs.isFile path = true) :
    fs.isDirectory path = false := by
  unfold FileSystem.isFile at file
  unfold FileSystem.isDirectory FileSystem.isDirectoryAt
  split at file
  · cases file
  · next location located =>
      split at file
      · next content here => simp [here]
      · cases file

theorem expand_of_isDirectory (input : Path) (isDirectory : fs.isDirectory input = true) :
    expand fs settings input = search fs settings input := by
  have notFile : fs.isFile input ≠ true := by
    intro file
    rw [not_isDirectory_of_isFile fs input file] at isDirectory
    cases isDirectory
  rw [expand, if_neg notFile, if_pos isDirectory]

theorem expand_of_missing (input : Path) (missing : Missing fs input) :
    expand fs settings input = .error (.inputNotFound input) := by
  rw [expand, missing.1, missing.2]
  rfl

theorem expand_of_present (input : Path) (walks : fs.isDirectory input = true → Walkable fs input)
    (present : ¬ Missing fs input) :
    ∃ found, expand fs settings input = .ok found ∧
      Comprises (fun path => (path = input ∧ fs.isFile input = true) ∨
        (fs.isDirectory input = true ∧ Selected fs settings input path)) found := by
  by_cases file : fs.isFile input = true
  · have other := not_isDirectory_of_isFile fs input file
    refine ⟨[input], if_pos file, ?_, ?_⟩
    · intro path listed
      exact .inl ⟨List.mem_singleton.mp listed, file⟩
    · rintro path (⟨rfl, _⟩ | ⟨isDirectory, _⟩)
      · exact ⟨path, List.mem_singleton_self path, rfl⟩
      · rw [other] at isDirectory
        cases isDirectory
  · have isDirectory : fs.isDirectory input = true := by
      by_contra other
      exact present ⟨Bool.not_eq_true _ ▸ file, Bool.not_eq_true _ ▸ other⟩
    obtain ⟨found, searched, comprises⟩ := search_of_walkable fs settings input (walks isDirectory)
    refine ⟨found, (expand_of_isDirectory fs settings input isDirectory).trans searched, ?_, ?_⟩
    · intro path listed
      exact .inr ⟨isDirectory, comprises.sound path listed⟩
    · rintro path (⟨_, isFile⟩ | ⟨_, selected⟩)
      · exact absurd isFile file
      · exact comprises.complete path selected

theorem flatten_mapM (stage : Path → Except Failure (List Path)) (inputs : List Path)
    (stands : Path → Path → Prop)
    (each : ∀ input ∈ inputs, ∃ found, stage input = .ok found ∧ Comprises (stands input) found) :
    ∃ found, (inputs.mapM stage).map List.flatten = .ok found ∧
      Comprises (fun path => ∃ input ∈ inputs, stands input path) found := by
  induction inputs with
  | nil => exact ⟨[], rfl, by simp, by simp⟩
  | cons input inputs ih =>
      obtain ⟨first, staged, one⟩ := each input List.mem_cons_self
      obtain ⟨rest, mapped, others⟩ := ih fun other later => each other (List.mem_cons_of_mem input later)
      obtain ⟨results, passed, rfl⟩ := (map_eq_ok_iff _ _ _).mp mapped
      refine ⟨first ++ results.flatten, ?_, ?_, ?_⟩
      · rw [List.mapM_cons, staged, passed]
        rfl
      · intro path listed
        rcases List.mem_append.mp listed with here | later
        · exact ⟨input, List.mem_cons_self, one.sound path here⟩
        · obtain ⟨other, given, stood⟩ := others.sound path later
          exact ⟨other, List.mem_cons_of_mem input given, stood⟩
      · rintro path ⟨other, given, stood⟩
        rcases List.mem_cons.mp given with rfl | later
        · obtain ⟨kept, listed, same⟩ := one.complete path stood
          exact ⟨kept, List.mem_append_left _ listed, same⟩
        · obtain ⟨kept, listed, same⟩ := others.complete path ⟨other, later, stood⟩
          exact ⟨kept, List.mem_append_right _ listed, same⟩

structure Ready : Prop where
  present : ∀ input ∈ inputs, ¬ Missing fs input
  walks : ∀ root, Searched fs inputs directory root → Walkable fs root

theorem Comprises.congr {first second : Path → Prop} {paths : List Path}
    (comprises : Comprises first paths) (same : ∀ path, first path ↔ second path) :
    Comprises second paths :=
  ⟨fun path listed => (same path).mp (comprises.sound path listed),
    fun path holds => comprises.complete path ((same path).mpr holds)⟩

theorem gathered_of_ready (ready : Ready fs inputs directory) :
    ∃ found, gathered fs settings inputs directory = .ok found ∧
      Comprises (Eligible fs settings inputs directory) found := by
  unfold gathered
  by_cases empty : inputs = []
  · obtain ⟨found, searched, comprises⟩ :=
      search_of_walkable fs settings directory (ready.walks directory (.inr ⟨empty, rfl⟩))
    refine ⟨found, by simp [empty, searched], comprises.congr fun path => ?_⟩
    simp [Eligible, Searched, empty]
  · obtain ⟨found, expanded, comprises⟩ := flatten_mapM (expand fs settings) inputs _ fun input given =>
      expand_of_present fs settings input
        (fun isDirectory => ready.walks input (.inl ⟨given, isDirectory⟩)) (ready.present input given)
    refine ⟨found, by simp [empty, expanded], comprises.congr fun path => ?_⟩
    constructor
    · rintro ⟨input, given, ⟨rfl, file⟩ | ⟨isDirectory, selected⟩⟩
      · exact .inl ⟨given, file⟩
      · exact .inr ⟨input, .inl ⟨given, isDirectory⟩, selected⟩
    · rintro (⟨given, file⟩ | ⟨root, ⟨given, isDirectory⟩ | ⟨none, _⟩, selected⟩)
      · exact ⟨path, given, .inl ⟨rfl, file⟩⟩
      · exact ⟨root, given, .inr ⟨isDirectory, selected⟩⟩
      · exact absurd none empty

def Fails (input : Path) : Prop :=
  ∃ failure, ∀ settings, expand fs settings input = .error failure

theorem fails_or_present (input : Path) :
    Fails fs input ∨ (¬ Missing fs input ∧ (fs.isDirectory input = true → Walkable fs input)) := by
  by_cases missing : Missing fs input
  · exact .inl ⟨_, fun settings => expand_of_missing fs settings input missing⟩
  · by_cases walks : fs.isDirectory input = true → Walkable fs input
    · exact .inr ⟨missing, walks⟩
    · left
      obtain ⟨isDirectory, stuck⟩ := Classical.not_imp.mp walks
      obtain ⟨failure, searched⟩ := search_of_not_walkable fs input stuck
      refine ⟨failure, fun settings => ?_⟩
      rw [expand_of_isDirectory fs settings input isDirectory, searched]

theorem mapM_of_fails (bad : ∃ input ∈ inputs, Fails fs input) :
    ∃ failure, ∀ settings, inputs.mapM (expand fs settings) = .error failure := by
  induction inputs with
  | nil => simp at bad
  | cons input inputs ih =>
      by_cases first : Fails fs input
      · obtain ⟨failure, fails⟩ := first
        refine ⟨failure, fun settings => ?_⟩
        rw [List.mapM_cons, fails]
        rfl
      · obtain ⟨present, walks⟩ := (fails_or_present fs input).resolve_left first
        have later : ∃ input ∈ inputs, Fails fs input := by
          obtain ⟨other, given, fails⟩ := bad
          rcases List.mem_cons.mp given with rfl | later
          · exact absurd fails first
          · exact ⟨other, later, fails⟩
        obtain ⟨failure, fails⟩ := ih later
        refine ⟨failure, fun settings => ?_⟩
        obtain ⟨found, expanded, _⟩ := expand_of_present fs settings input walks present
        rw [List.mapM_cons, expanded, fails]
        rfl

theorem gathered_of_not_ready (unready : ¬ Ready fs inputs directory) :
    ∃ failure, ∀ settings, gathered fs settings inputs directory = .error failure := by
  unfold gathered
  by_cases empty : inputs = []
  · have stuck : ¬ Walkable fs directory := by
      intro walkable
      refine unready ⟨by simp [empty], ?_⟩
      rintro root (⟨given, _⟩ | ⟨_, rfl⟩)
      · simp [empty] at given
      · exact walkable
    obtain ⟨failure, searched⟩ := search_of_not_walkable fs directory stuck
    exact ⟨failure, fun settings => by simp [empty, searched]⟩
  · have bad : ∃ input ∈ inputs, Fails fs input := by
      by_contra good
      have sound : ∀ input ∈ inputs,
          ¬ Missing fs input ∧ (fs.isDirectory input = true → Walkable fs input) := by
        intro input given
        exact (fails_or_present fs input).resolve_left fun fails => good ⟨input, given, fails⟩
      refine unready ⟨fun input given => (sound input given).1, ?_⟩
      rintro root (⟨given, isDirectory⟩ | ⟨none, _⟩)
      · exact (sound root given).2 isDirectory
      · exact absurd none empty
    obtain ⟨failure, fails⟩ := mapM_of_fails fs inputs bad
    exact ⟨failure, fun settings => by simp [empty, fails, Except.map]⟩

end Inputs

/-- Paths with a property, in order and each once. -/
structure Lists (property : Path → Prop) (paths : List Path) : Prop
    extends Comprises property paths where
  increasing : paths.Pairwise Path.Before

theorem Lists.sublist {first second : Path → Prop} {paths others : List Path}
    (one : Lists first paths) (two : Lists second others) (implies : ∀ path, first path → second path) :
    (paths.map Path.components).Sublist (others.map Path.components) := by
  have ordered : ∀ {listed : List Path}, listed.Pairwise Path.Before →
      (listed.map Path.components).Pairwise fun a b =>
        a.map Path.Component.key < b.map Path.Component.key := by
    intro listed increasing
    exact List.pairwise_map.mpr (increasing.imp fun {a b} => (Path.before_iff a b).mp)
  have distinct : (paths.map Path.components).Nodup :=
    (ordered one.increasing).imp fun {a b} less same => absurd (same ▸ less) (lt_irrefl _)
  have subset : paths.map Path.components ⊆ others.map Path.components := by
    intro components member
    obtain ⟨path, listed, rfl⟩ := List.mem_map.mp member
    obtain ⟨kept, found, same⟩ := two.complete path (implies path (one.sound path listed))
    exact List.mem_map.mpr ⟨kept, found, same⟩
  have antisymm : Std.Antisymm fun a b : List Path.Component =>
      a.map Path.Component.key < b.map Path.Component.key :=
    ⟨fun a b less greater => absurd greater (lt_asymm less)⟩
  exact List.sublist_of_subperm_of_pairwise (List.subperm_of_subset distinct subset)
    (ordered one.increasing) (ordered two.increasing)

section Models

variable (fs : FileSystem) (settings : Settings) (inputs : List Path) (directory : Path)

theorem models_of_ready (ready : Ready fs inputs directory) :
    ∃ paths, models fs settings inputs directory = .ok paths ∧
      Lists (Eligible fs settings inputs directory) paths := by
  obtain ⟨found, gathers, comprises⟩ := gathered_of_ready fs settings inputs directory ready
  have stable := StableSort.of_mergeSort Path.le Path.le_iff found
  refine ⟨dropRepeats (found.mergeSort Path.le), by rw [models_eq, gathers]; rfl, ⟨?_, ?_⟩, ?_⟩
  · intro path kept
    exact comprises.sound path (stable.perm.mem_iff.mp ((dropRepeats_sublist _).subset kept))
  · intro path eligible
    obtain ⟨other, listed, same⟩ := comprises.complete path eligible
    obtain ⟨kept, stays, equal⟩ := exists_kept _ other (stable.perm.mem_iff.mpr listed)
    exact ⟨kept, stays, ((Path.key_eq_iff kept other).mp equal).trans same⟩
  · exact (dropRepeats_increasing _ stable.sorted).imp fun {a b} => (Path.before_iff a b).mpr

theorem models_of_not_ready (unready : ¬ Ready fs inputs directory) :
    ∃ failure, ∀ settings, models fs settings inputs directory = .error failure := by
  obtain ⟨failure, fails⟩ := gathered_of_not_ready fs inputs directory unready
  exact ⟨failure, fun settings => by rw [models_eq, fails]; rfl⟩

theorem models_fail_iff :
    (∃ failure, models fs settings inputs directory = .error failure) ↔ ¬ Ready fs inputs directory := by
  constructor
  · rintro ⟨failure, fails⟩ ready
    obtain ⟨paths, found, _⟩ := models_of_ready fs settings inputs directory ready
    rw [fails] at found
    cases found
  · intro unready
    obtain ⟨failure, fails⟩ := models_of_not_ready fs inputs directory unready
    exact ⟨failure, fails settings⟩

theorem lists_of_models (paths : List Path)
    (found : models fs settings inputs directory = .ok paths) :
    Lists (Eligible fs settings inputs directory) paths := by
  by_cases ready : Ready fs inputs directory
  · obtain ⟨listed, foundToo, lists⟩ := models_of_ready fs settings inputs directory ready
    rw [found] at foundToo
    cases foundToo
    exact lists
  · obtain ⟨failure, fails⟩ := models_of_not_ready fs inputs directory ready
    rw [fails] at found
    cases found

end Models

section SameInputs

variable (fs : FileSystem) (settings : Settings) (directory : Path) {inputs others : List Path}
  (same : ∀ input, input ∈ others ↔ input ∈ inputs)

include same

theorem searched_congr (root : Path) :
    Searched fs others directory root ↔ Searched fs inputs directory root := by
  have empty : others = [] ↔ inputs = [] := by
    simp only [List.eq_nil_iff_forall_not_mem, same]
  rw [Searched, Searched, same, empty]

theorem ready_congr : Ready fs others directory ↔ Ready fs inputs directory := by
  constructor
  · intro ready
    exact ⟨fun input given => ready.present input ((same input).mpr given), fun root searched =>
      ready.walks root ((searched_congr fs directory same root).mpr searched)⟩
  · intro ready
    exact ⟨fun input given => ready.present input ((same input).mp given), fun root searched =>
      ready.walks root ((searched_congr fs directory same root).mp searched)⟩

theorem eligible_congr (path : Path) :
    Eligible fs settings others directory path ↔ Eligible fs settings inputs directory path := by
  simp only [Eligible, same, searched_congr fs directory same]

end SameInputs

/-- If all searches succeed, an input that is neither a file nor a directory is the only reason to
fail. The models are the eligible paths in order, each once, and inputs in another order, or repeated,
have the same models. -/
theorem models_canonical (fs : FileSystem) (settings : Settings) (inputs : List Path)
    (directory : Path) (walks : ∀ root, Searched fs inputs directory root → Walkable fs root) :
    ((∃ failure, models fs settings inputs directory = .error failure) ↔
      ∃ input ∈ inputs, Missing fs input) ∧
    (∀ paths, models fs settings inputs directory = .ok paths →
      Lists (Eligible fs settings inputs directory) paths) ∧
    ∀ others, (∀ input, input ∈ others ↔ input ∈ inputs) →
      ((∃ failure, models fs settings others directory = .error failure) ↔
        ∃ failure, models fs settings inputs directory = .error failure) ∧
      ∀ paths again, models fs settings inputs directory = .ok paths →
        models fs settings others directory = .ok again →
        again.map Path.components = paths.map Path.components := by
  refine ⟨?_, lists_of_models fs settings inputs directory, ?_⟩
  · rw [models_fail_iff]
    constructor
    · intro unready
      by_contra complete
      exact unready ⟨fun input given missing => complete ⟨input, given, missing⟩, walks⟩
    · rintro ⟨input, given, missing⟩ ready
      exact ready.present input given missing
  · intro others same
    constructor
    · rw [models_fail_iff, models_fail_iff, ready_congr fs directory same]
    · intro paths again found foundAgain
      have one := lists_of_models fs settings inputs directory paths found
      have two := lists_of_models fs settings others directory again foundAgain
      have congr := eligible_congr fs settings directory same
      exact (two.sublist one fun path => (congr path).mp).antisymm
        (one.sublist two fun path => (congr path).mpr)

def nested : FileSystem :=
  ⟨[([], .directory), (["d"], .directory), (["d", "a.json"], .file ⟨#[]⟩), (["d", "sub"], .directory),
    (["d", "sub", "b.json"], .file ⟨#[]⟩), (["e"], .directory), (["e", "link"], .link ⟨"/d/sub"⟩)]⟩

def nestedInputs : List Path := [⟨"/e"⟩, ⟨"/d"⟩, ⟨"/d/./sub"⟩, ⟨"/d/a.json"⟩]

def everything : Settings := ⟨none, [⟨"*", [.star]⟩], [], .empty⟩

def nestedModels : List Path := [⟨"/d/a.json"⟩, ⟨"/d/sub/b.json"⟩, ⟨"/e/link/b.json"⟩]

theorem nested_walkable : ∀ root, Searched nested nestedInputs ⟨"/"⟩ root → Walkable nested root := by
  have first : nested.reach ⟨"/e"⟩ = .ok ⟨["e"], 40⟩ := by cbv
  have second : nested.reach ⟨"/d"⟩ = .ok ⟨["d"], 40⟩ := by cbv
  have third : nested.reach ⟨"/d/./sub"⟩ = .ok ⟨["d", "sub"], 40⟩ := by cbv
  have file : nested.isDirectory ⟨"/d/a.json"⟩ = false := by cbv
  rintro root (⟨given, isDirectory⟩ | ⟨none, _⟩)
  · simp only [nestedInputs, List.mem_cons, List.not_mem_nil, or_false] at given
    rcases given with rfl | rfl | rfl | rfl
    · exact (filesFrom_ok_iff nested _ _ first).mp ⟨[["link", "b.json"]], by cbv⟩
    · exact (filesFrom_ok_iff nested _ _ second).mp ⟨[["a.json"], ["sub", "b.json"]], by cbv⟩
    · exact (filesFrom_ok_iff nested _ _ third).mp ⟨[["b.json"]], by cbv⟩
    · rw [file] at isDirectory
      cases isDirectory
  · cases none

theorem nested_canonical :
    (∀ root, Searched nested nestedInputs ⟨"/"⟩ root → Walkable nested root) ∧
      models nested everything nestedInputs ⟨"/"⟩ = .ok nestedModels ∧
      Lists (Eligible nested everything nestedInputs ⟨"/"⟩) nestedModels ∧
      ∀ again, models nested everything (nestedInputs.reverse ++ nestedInputs) ⟨"/"⟩ = .ok again →
        again.map Path.components = nestedModels.map Path.components := by
  have found : models nested everything nestedInputs ⟨"/"⟩ = .ok nestedModels := by cbv
  obtain ⟨_, lists, permutes⟩ :=
    models_canonical nested everything nestedInputs ⟨"/"⟩ nested_walkable
  refine ⟨nested_walkable, found, lists nestedModels found, ?_⟩
  intro again foundAgain
  exact (permutes _ (by simp)).2 nestedModels again found foundAgain

end Discovery

end ConventionLint
