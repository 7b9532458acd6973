import ConventionLint.Discovery

namespace ConventionLint.Path

open Bytes (slash dot)

theorem split_ne_nil (bytes : Bytes) : split bytes ≠ [] := by
  cases bytes with
  | nil => simp [split]
  | cons b bytes =>
      rw [split]
      split
      · simp
      · split
        · simp
        · simp

theorem split_append_slash (front back : Bytes) :
    split (front ++ slash :: back) = split front ++ split back := by
  induction front with
  | nil => simp [split]
  | cons b front ih =>
      rw [List.cons_append, split, split, ih]
      split
      · rfl
      · cases pieces : split front with
        | nil => exact absurd pieces (split_ne_nil front)
        | cons piece rest => rfl

theorem split_of_not_mem (piece : Bytes) (whole : slash ∉ piece) : split piece = [piece] := by
  induction piece with
  | nil => rfl
  | cons b piece ih =>
      have first : b ≠ slash := fun same => whole (same ▸ List.mem_cons_self)
      rw [split, if_neg first, ih fun later => whole (List.mem_cons_of_mem b later)]

theorem not_mem_of_mem_split (bytes : Bytes) : ∀ piece ∈ split bytes, slash ∉ piece := by
  induction bytes with
  | nil => simp [split]
  | cons b bytes ih =>
      rw [split]
      split
      · exact List.forall_mem_cons.mpr ⟨List.not_mem_nil, ih⟩
      · next other =>
          cases pieces : split bytes with
          | nil => exact absurd pieces (split_ne_nil bytes)
          | cons piece rest =>
              rw [pieces] at ih
              obtain ⟨first, later⟩ := List.forall_mem_cons.mp ih
              refine List.forall_mem_cons.mpr ⟨?_, later⟩
              intro member
              rcases List.mem_cons.mp member with same | inside
              · exact other same.symm
              · exact first inside

theorem isName_iff (segment : Bytes) :
    isName segment = true ↔ isIdle segment = false ∧ segment ≠ upward ∧ slash ∉ segment := by
  simp [isName, and_assoc]

theorem split_relative (names : List Bytes) (some : names ≠ [])
    (proper : ∀ name ∈ names, isName name = true) : split (Discovery.relative names) = names := by
  induction names with
  | nil => exact absurd rfl some
  | cons name names ih =>
      obtain ⟨first, later⟩ := List.forall_mem_cons.mp proper
      have whole : slash ∉ name := ((isName_iff name).mp first).2.2
      cases names with
      | nil => simp [Discovery.relative, List.intercalate, split_of_not_mem name whole]
      | cons next names =>
          have joined : Discovery.relative (name :: next :: names) =
              name ++ slash :: Discovery.relative (next :: names) := by
            simp [Discovery.relative, List.intercalate]
          rw [joined, split_append_slash, split_of_not_mem name whole, ih (by simp) later]
          rfl

def steps (path : Path) : List Bytes := path.segments.filter fun segment => !isIdle segment

def Component.ofStep (segment : Bytes) : Component := if segment = upward then .up else .name segment

theorem filterMap_component (segments : List Bytes) :
    segments.filterMap component? =
      (segments.filter fun segment => !isIdle segment).map Component.ofStep := by
  induction segments with
  | nil => rfl
  | cons segment segments ih =>
      cases idle : isIdle segment with
      | true => simp [component?, idle, ih]
      | false =>
          have stands : component? segment = some (Component.ofStep segment) := by
            unfold component? Component.ofStep
            split
            · simp_all
            · split
              · rfl
              · rfl
          simp [stands, idle, ih]

theorem components_of_isAbsolute (path : Path) (absolute : path.isAbsolute = true) :
    path.components = .root :: path.steps.map Component.ofStep := by
  obtain ⟨bytes⟩ := path
  cases bytes with
  | nil => cases absolute
  | cons b bytes =>
      have first : b = slash := by simpa [isAbsolute] using absolute
      subst first
      have pieces : segments ⟨slash :: bytes⟩ = [] :: split bytes := by simp [segments, split]
      have idle : isIdle [] = true := rfl
      simp [components, pieces, absolute, filterMap_component, steps, idle]

theorem isAbsolute_of_root_mem (path : Path) (root : Component.root ∈ path.components) :
    path.isAbsolute = true := by
  have never : ∀ segment, component? segment ≠ some .root := by
    intro segment
    unfold component?
    split
    · simp
    · split
      · simp
      · simp
  cases relative : path.isAbsolute with
  | true => rfl
  | false =>
      unfold components at root
      split at root
      · cases root
      · next first rest pieces =>
          rcases List.mem_append.mp root with lead | later
          · rw [relative, if_neg Bool.false_ne_true] at lead
            split at lead
            · simp at lead
            · exact absurd (Option.mem_toList.mp lead) (never first)
          · obtain ⟨segment, _, stands⟩ := List.mem_filterMap.mp later
            exact absurd stands (never segment)

theorem ofStep_injective (first second : Bytes) (same : Component.ofStep first = .ofStep second) :
    first = second := by
  unfold Component.ofStep at same
  split at same
  · split at same
    · simp_all
    · cases same
  · split at same
    · cases same
    · simpa using same

theorem steps_of_components (path directory : Path) (names : List Bytes)
    (absolute : directory.isAbsolute = true)
    (below : path.components = directory.components ++ names.map .name) :
    path.isAbsolute = true ∧ path.steps = directory.steps ++ names ∧
      ∀ name ∈ names, isName name = true := by
  rw [components_of_isAbsolute directory absolute] at below
  have rooted : path.isAbsolute = true := by
    apply isAbsolute_of_root_mem
    rw [below]
    exact List.mem_cons_self
  rw [components_of_isAbsolute path rooted, List.cons_append, List.cons.injEq] at below
  obtain ⟨front, back, split, fronts, backs⟩ := List.map_eq_append_iff.mp below.2
  have named : ∀ segment ∈ back, Component.ofStep segment ∈ names.map Component.name := by
    intro segment member
    rw [← backs]
    exact List.mem_map_of_mem member
  have proper : ∀ segment ∈ back, isName segment = true ∧ Component.ofStep segment = .name segment := by
    intro segment member
    obtain ⟨name, _, stands⟩ := List.mem_map.mp (named segment member)
    have listed : segment ∈ path.steps := split ▸ List.mem_append_right front member
    obtain ⟨inside, busy⟩ := List.mem_filter.mp listed
    have whole := not_mem_of_mem_split path.bytes segment inside
    unfold Component.ofStep at stands ⊢
    split at stands
    · cases stands
    · next other => exact ⟨(isName_iff segment).mpr ⟨by simpa using busy, other, whole⟩, if_neg other⟩
  have same : back = names := by
    apply (List.map_inj_right fun _ _ => Component.name.inj).mp
    rw [← backs]
    exact List.map_congr_left fun segment member => (proper segment member).2.symm
  have kept : front = directory.steps := (List.map_inj_right ofStep_injective).mp fronts
  subst same kept
  exact ⟨rooted, split, fun segment member => (proper segment member).1⟩

/-- The pieces of a path below a directory are those of the directory, without one that is empty and
comes last, and the names. -/
theorem segments_pathBelow (directory : Path) (names : List Bytes)
    (absolute : directory.isAbsolute = true) (some : names ≠ [])
    (proper : ∀ name ∈ names, isName name = true) :
    (Discovery.pathBelow directory names).isAbsolute = true ∧
      ∃ front, (directory.segments = front ∨ directory.segments = front ++ [[]]) ∧
        (Discovery.pathBelow directory names).segments = front ++ names := by
  have pieces := split_relative names some proper
  have relative : isAbsolute ⟨Discovery.relative names⟩ = false := by
    cases names with
    | nil => exact absurd rfl some
    | cons name names =>
        obtain ⟨busy, _, whole⟩ := (isName_iff name).mp (proper name List.mem_cons_self)
        cases name with
        | nil => cases busy
        | cons b name =>
            have first : b ≠ slash := fun same => whole (same ▸ List.mem_cons_self)
            cases names with
            | nil => simpa [Discovery.relative, List.intercalate, isAbsolute] using first
            | cons next names => simpa [Discovery.relative, List.intercalate, isAbsolute] using first
  have occupied : directory.bytes.isEmpty = false := by
    cases empty : directory.bytes with
    | nil => simp [isAbsolute, empty] at absolute
    | cons b bytes => rfl
  have starts : ∀ back, isAbsolute ⟨directory.bytes ++ back⟩ = true := by
    intro back
    cases rest : directory.bytes with
    | nil => simp [rest] at occupied
    | cons b bytes => simpa [isAbsolute, rest] using absolute
  rw [Discovery.pathBelow, if_neg (by simpa using some), join, if_neg (by simp [relative, occupied])]
  split
  · next ends =>
      obtain ⟨front, whole⟩ := List.getLast?_eq_some_iff.mp ends
      refine ⟨starts _, split front, .inr ?_, ?_⟩
      · rw [segments, whole, split_append_slash]
        rfl
      · rw [segments, whole, List.append_assoc, List.singleton_append, split_append_slash, pieces]
  · exact ⟨starts _, directory.segments, .inl rfl, by rw [segments, split_append_slash, pieces]; rfl⟩

theorem components_pathBelow (directory : Path) (names : List Bytes)
    (absolute : directory.isAbsolute = true) (proper : ∀ name ∈ names, isName name = true) :
    (Discovery.pathBelow directory names).components = directory.components ++ names.map .name := by
  by_cases none : names = []
  · simp [none, Discovery.pathBelow]
  · obtain ⟨rooted, front, before, after⟩ := segments_pathBelow directory names absolute none proper
    have busy : names.filter (fun segment => !isIdle segment) = names := by
      apply List.filter_eq_self.mpr
      intro name member
      simp [((isName_iff name).mp (proper name member)).1]
    have named : names.map Component.ofStep = names.map .name := by
      apply List.map_congr_left
      intro name member
      exact if_neg ((isName_iff name).mp (proper name member)).2.1
    have kept : directory.steps = front.filter fun segment => !isIdle segment := by
      rcases before with same | ends
      · rw [steps, same]
      · have idle : isIdle [] = true := rfl
        simp [steps, ends, idle]
    rw [components_of_isAbsolute _ rooted, components_of_isAbsolute _ absolute, steps, after,
      List.filter_append, busy, List.map_append, named, kept]
    rfl

end ConventionLint.Path
