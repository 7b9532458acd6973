import ConventionLint.Proofs.FileSystem.Reading
import ConventionLint.Proofs.Path.Pieces

namespace ConventionLint.FileSystem

variable (fs : FileSystem)

theorem follow_append (links : Nat) (location : Location) (front back : List Bytes) :
    fs.follow links location (front ++ back) =
      (fs.follow links location front).bind fun place =>
        fs.follow place.links place.location back := by
  fun_induction follow fs links location front with
  | case1 links location => rfl
  | case2 links location segment segments directory idle ih =>
      rw [List.cons_append, follow, if_pos directory, if_pos idle, ih]
  | case3 links location segments directory busy ih =>
      rw [List.cons_append, follow, if_pos directory, if_neg busy, if_pos rfl, ih]
  | case4 links location segment segments directory busy down missing =>
      rw [List.cons_append, follow, if_pos directory, if_neg busy, if_neg down, missing]
      rfl
  | case5 location segment segments directory busy down target found =>
      rw [List.cons_append, follow, if_pos directory, if_neg busy, if_neg down, found]
      rfl
  | case6 location segment segments directory busy down target found links ih =>
      rw [dite_eq_ite, List.append_assoc] at ih
      rw [List.cons_append, follow, if_pos directory, if_neg busy, if_neg down, found]
      exact ih
  | case7 links location segment segments directory busy down node other found ih =>
      rw [List.cons_append, follow, if_pos directory, if_neg busy, if_neg down, found]
      cases node with
      | link target => exact absurd rfl (other target)
      | file content => exact ih
      | directory => exact ih
  | case8 links location segment segments elsewhere =>
      rw [List.cons_append, follow, if_neg elsewhere]
      rfl

theorem follow_cons_eq_ok_iff (links : Nat) (location : Location) (segment : Bytes)
    (segments : List Bytes) (place : Reached) :
    fs.follow links location (segment :: segments) = .ok place ↔
      ∃ next, fs.follow links location [segment] = .ok next ∧
        fs.follow next.links next.location segments = .ok place := by
  rw [← List.singleton_append, follow_append]
  exact bind_eq_ok_iff _ _ _

theorem follow_idle (links : Nat) (location : Location) (segments : List Bytes) (place : Reached)
    (idle : ∀ segment ∈ segments, Path.isIdle segment = true)
    (followed : fs.follow links location segments = .ok place) : place = ⟨location, links⟩ := by
  induction segments with
  | nil =>
      rw [follow] at followed
      exact (Except.ok.inj followed).symm
  | cons segment segments ih =>
      obtain ⟨first, later⟩ := List.forall_mem_cons.mp idle
      rw [follow, first] at followed
      split at followed
      · exact ih later followed
      · cases followed

/-- What is reached is reached without the idle pieces too. -/
theorem follow_busy (links : Nat) (location : Location) (segments : List Bytes) (place : Reached)
    (followed : fs.follow links location segments = .ok place) :
    fs.follow links location (segments.filter fun segment => !Path.isIdle segment) = .ok place := by
  induction segments generalizing links location with
  | nil => exact followed
  | cons segment segments ih =>
      obtain ⟨next, first, rest⟩ := (fs.follow_cons_eq_ok_iff _ _ _ _ _).mp followed
      cases idle : Path.isIdle segment with
      | true =>
          cases fs.follow_idle links location [segment] next (by simpa using idle) first
          rw [List.filter_cons_of_neg (by simp [idle])]
          exact ih _ _ rest
      | false =>
          rw [List.filter_cons_of_pos (by simp [idle])]
          exact (fs.follow_cons_eq_ok_iff _ _ _ _ _).mpr ⟨next, first, ih _ _ rest⟩

/-- A path with the components of a directory and some names leads where the names lead from the
directory. -/
theorem follow_of_components (directory path : Path) (names : List Bytes) (start place : Reached)
    (there : fs.reach directory = .ok start)
    (below : path.components = directory.components ++ names.map .name)
    (reached : fs.reach path = .ok place) :
    (∀ name ∈ names, Path.isName name = true) ∧
      fs.follow start.links start.location names = .ok place := by
  have absolute := fs.isAbsolute_of_reach directory start there
  obtain ⟨rooted, pieces, proper⟩ := Path.steps_of_components path directory names absolute below
  rw [reach, if_pos absolute] at there
  rw [reach, if_pos rooted] at reached
  have whole := fs.follow_busy 40 [] path.segments place reached
  have first := fs.follow_busy 40 [] directory.segments start there
  refine ⟨proper, ?_⟩
  calc fs.follow start.links start.location names
    _ = (fs.follow 40 [] directory.steps).bind
        fun place => fs.follow place.links place.location names := by rw [Path.steps, first]; rfl
    _ = fs.follow 40 [] path.steps := by rw [pieces, follow_append]
    _ = .ok place := whole

theorem reach_pathBelow (directory : Path) (names : List Bytes) (start : Reached)
    (there : fs.reach directory = .ok start) (proper : ∀ name ∈ names, Path.isName name = true) :
    fs.reach (Discovery.pathBelow directory names) =
      fs.follow start.links start.location names := by
  by_cases none : names = []
  · rw [none, follow]
    exact there
  · have absolute := fs.isAbsolute_of_reach directory start there
    obtain ⟨rooted, front, before, after⟩ :=
      Path.segments_pathBelow directory names absolute none proper
    rw [reach, if_pos absolute] at there
    have first : fs.follow 40 [] front = .ok start := by
      rcases before with same | ends
      · rw [← same, there]
      · rw [ends, follow_append] at there
        obtain ⟨place, followed, last⟩ := (bind_eq_ok_iff _ _ _).mp there
        cases fs.follow_idle _ _ [[]] start (by simp [Path.isIdle]) last
        exact followed
    rw [reach, if_pos rooted, after, follow_append, first]
    rfl

section Names

variable (links : Nat) (location : Location) (name : Bytes)

theorem isDirectoryAt_iff : fs.isDirectoryAt location = true ↔ fs.get? location = some .directory := by
  unfold isDirectoryAt
  split
  · next found => simp [found]
  · next other => simpa using other

theorem mem_names_iff : name ∈ fs.names location ↔
    Path.isName name = true ∧ ∃ node, fs.get? (location ++ [name]) = some node := by
  have listed : (∃ node, fs.get? (location ++ [name]) = some node) ↔
      ∃ node, (location ++ [name], node) ∈ fs.entries := by
    constructor
    · rintro ⟨node, found⟩
      exact ⟨node, mem_entries_of_get? found⟩
    · rintro ⟨node, member⟩
      cases found : fs.get? (location ++ [name]) with
      | some other => exact ⟨other, rfl⟩
      | none =>
          have absent := List.findSome?_eq_none_iff.mp found _ member
          simp at absent
  rw [listed, names, List.mem_mergeSort, List.mem_filterMap]
  constructor
  · rintro ⟨⟨entry, node⟩, member, taken⟩
    cases ends : entry.getLast? with
    | none => simp [ends] at taken
    | some last =>
        obtain ⟨front, rfl⟩ := List.getLast?_eq_some_iff.mp ends
        simp only [List.getLast?_concat, List.dropLast_concat, Option.ite_none_right_eq_some,
          Option.some.injEq] at taken
        obtain ⟨⟨rfl, proper⟩, rfl⟩ := taken
        exact ⟨proper, node, member⟩
  · rintro ⟨proper, node, member⟩
    exact ⟨_, member, by simp [proper]⟩

theorem mem_names_of_follow (proper : Path.isName name = true) (place : Reached)
    (followed : fs.follow links location [name] = .ok place) :
    fs.get? location = some .directory ∧ name ∈ fs.names location := by
  obtain ⟨busy, down, _⟩ := (Path.isName_iff name).mp proper
  rw [follow, busy, if_neg Bool.false_ne_true, if_neg down] at followed
  split at followed
  · next directory =>
      refine ⟨(fs.isDirectoryAt_iff location).mp directory, ?_⟩
      cases found : fs.get? (location ++ [name]) with
      | some node => exact (fs.mem_names_iff location name).mpr ⟨proper, node, found⟩
      | none =>
          rw [found] at followed
          cases followed
  · cases followed

theorem follow_of_not_link (start : Reached) (name : Bytes) (node : Node)
    (proper : Path.isName name = true) (directory : fs.get? start.location = some .directory)
    (found : fs.get? (start.location ++ [name]) = some node)
    (plain : ∀ target, node ≠ .link target) :
    fs.follow start.links start.location [name] = .ok ⟨start.location ++ [name], start.links⟩ := by
  obtain ⟨busy, down, _⟩ := (Path.isName_iff name).mp proper
  rw [follow, if_pos ((fs.isDirectoryAt_iff _).mpr directory), busy,
    if_neg Bool.false_ne_true, if_neg down, found]
  cases node with
  | link target => exact absurd rfl (plain target)
  | file content => rw [follow]
  | directory => rw [follow]

end Names

section Texts

variable (texts : List (Bytes × String)) (others : List (Location × Node))

def ofTexts : FileSystem where
  entries := ([], .directory) :: texts.map (fun text => ([text.1], .file text.2.toUTF8)) ++ others

theorem get?_ofTexts (name : Bytes) (text : String) (distinct : (texts.map Prod.fst).Nodup)
    (member : (name, text) ∈ texts) : (ofTexts texts others).get? [name] = some (.file text.toUTF8) := by
  have found : texts.findSome? (fun other => if other.1 = name then
      some (Node.file other.2.toUTF8) else none) = some (.file text.toUTF8) := by
    induction texts with
    | nil => cases member
    | cons first texts ih =>
        obtain ⟨fresh, distinct⟩ := List.nodup_cons.mp distinct
        rcases List.mem_cons.mp member with rfl | later
        · rw [List.findSome?_cons, if_pos rfl]
        · have other : first.1 ≠ name :=
            fun same => fresh (same ▸ List.mem_map_of_mem (f := Prod.fst) later)
          rw [List.findSome?_cons, if_neg other]
          exact ih distinct later
  have listed : (texts.map fun text => ([text.1], Node.file text.2.toUTF8)).findSome?
      (fun (entry, node) => if entry = [name] then some node else none) =
        some (.file text.toUTF8) := by
    simpa [List.findSome?_map, Function.comp_def] using found
  rw [get?, ofTexts, List.findSome?_append, List.findSome?_cons, listed]
  rfl

theorem reach_of_named (fs : FileSystem) (root : fs.get? [] = some .directory) (path : Path)
    (name : Bytes) (named : path.bytes = Bytes.slash :: name) (proper : Path.isName name = true) :
    fs.reach path = fs.follow 40 [] [name] := by
  obtain ⟨_, _, unslashed⟩ := (Path.isName_iff name).mp proper
  have absolute : path.isAbsolute = true := by
    rw [Path.isAbsolute, named]
    rfl
  have segments : path.segments = [[], name] := by
    rw [Path.segments, named, Path.split, if_pos rfl, Path.split_of_not_mem name unslashed]
  rw [reach, if_pos absolute, segments, follow, if_pos ((fs.isDirectoryAt_iff []).mpr root)]
  rfl

theorem readText_ofTexts (distinct : (texts.map Prod.fst).Nodup)
    (proper : ∀ text ∈ texts, Path.isName text.1 = true) (path : Path) (name : Bytes) (text : String)
    (named : path.bytes = Bytes.slash :: name) (member : (name, text) ∈ texts) :
    (ofTexts texts others).canonical path = .ofLocation [name] ∧
      (ofTexts texts others).readText path = .ok text := by
  have found := get?_ofTexts texts others name text distinct member
  have located : (ofTexts texts others).locate path = .ok [name] := by
    apply (locate_eq_ok_iff _ path [name]).mpr
    refine ⟨⟨[name], 40⟩, ?_, rfl⟩
    rw [reach_of_named (ofTexts texts others) rfl path name named (proper _ member)]
    apply follow_of_not_link _ ⟨[], 40⟩ name _ (proper _ member) rfl found
    intro target same
    cases same
  constructor
  · rw [canonical, located]
  · rw [readText, located]
    exact textAt_eq_ok _ _ _ found

theorem isFile_ofTexts_of_absent (path : Path) (name : Bytes)
    (named : path.bytes = Bytes.slash :: name) (proper : Path.isName name = true)
    (absent : name ∉ texts.map Prod.fst) (elsewhere : [name] ∉ others.map Prod.fst) :
    (ofTexts texts others).isFile path = false := by
  have missing : (ofTexts texts others).get? ([] ++ [name]) = none := by
    apply List.findSome?_eq_none_iff.mpr
    simp only [ofTexts, List.mem_append, List.mem_cons, List.mem_map]
    rintro entry ((rfl | ⟨text, member, rfl⟩) | member)
    · simp
    · have other : text.1 ≠ name := fun same => absent (same ▸ List.mem_map_of_mem member)
      simpa using other
    · have other : entry.1 ≠ [name] := fun same => elsewhere (same ▸ List.mem_map_of_mem member)
      simpa using other
  obtain ⟨busy, down, _⟩ := (Path.isName_iff name).mp proper
  have root : (ofTexts texts others).isDirectoryAt [] = true := rfl
  have lost : (ofTexts texts others).locate path = .error .notFound := by
    rw [locate, reach_of_named _ rfl path name named proper, follow, if_pos root, busy,
      if_neg Bool.false_ne_true, if_neg down, missing]
    rfl
  rw [isFile, lost]

end Texts

end ConventionLint.FileSystem
