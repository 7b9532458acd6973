import ConventionLint.Discovery
import ConventionLint.Proofs.Diagnostic.Order
import ConventionLint.Proofs.Path.Order
import ConventionLint.Proofs.Stages

namespace ConventionLint

namespace Discovery

theorem dropRepeats_sublist (paths : List Path) : (dropRepeats paths).Sublist paths := by
  fun_induction dropRepeats paths with
  | case1 a b paths same ih =>
      exact ih.trans ((List.sublist_cons_self b paths).cons_cons a)
  | case2 a b paths differ ih => exact ih.cons_cons a
  | case3 paths short => exact List.Sublist.refl paths

theorem dropRepeats_increasing (paths : List Path)
    (sorted : paths.Pairwise fun a b => a.key ≤ b.key) :
    (dropRepeats paths).Pairwise fun a b => a.key < b.key := by
  fun_induction dropRepeats paths with
  | case1 a b paths same ih =>
      exact ih (sorted.sublist ((List.sublist_cons_self b paths).cons_cons a))
  | case2 a b paths differ ih =>
      have least := List.pairwise_cons.mp sorted
      refine List.pairwise_cons.mpr ⟨?_, ih least.2⟩
      intro c kept
      have first : a.key < b.key :=
        lt_of_le_of_ne (least.1 b List.mem_cons_self) fun tied => differ (decide_eq_true tied)
      -- Everything that is kept of the rest is `b` or comes after it.
      rcases List.mem_cons.mp ((dropRepeats_sublist (b :: paths)).subset kept) with rfl | later
      · exact first
      · exact first.trans_le ((List.pairwise_cons.mp least.2).1 c later)
  | case3 paths short =>
      cases paths with
      | nil => exact .nil
      | cons a paths =>
          cases paths with
          | nil => exact List.pairwise_singleton _ a
          | cons b paths => exact absurd rfl (short a b paths)

theorem models_increasing (fs : FileSystem) (settings : Settings) (inputs : List Path)
    (directory : Path) (paths : List Path)
    (found : models fs settings inputs directory = .ok paths) :
    paths.Pairwise fun a b => a.key < b.key := by
  have sorts : ∀ unsorted : List Path,
      (dropRepeats (unsorted.mergeSort Path.le)).Pairwise fun a b => a.key < b.key := by
    intro unsorted
    exact dropRepeats_increasing _ (StableSort.of_mergeSort Path.le Path.le_iff unsorted).sorted
  unfold models at found
  split at found
  · obtain ⟨unsorted, _, done⟩ := (bind_eq_ok_iff _ _ _).mp found
    cases done
    exact sorts unsorted
  · obtain ⟨unsorted, _, done⟩ := (bind_eq_ok_iff _ _ _).mp found
    cases done
    exact sorts unsorted

theorem dropRepeats_of_increasing (paths : List Path)
    (increasing : paths.Pairwise fun a b => a.key < b.key) : dropRepeats paths = paths := by
  fun_induction dropRepeats paths with
  | case1 a b paths same ih =>
      have first := (List.pairwise_cons.mp increasing).1 b List.mem_cons_self
      exact absurd (of_decide_eq_true same) first.ne
  | case2 a b paths differ ih => rw [ih (List.pairwise_cons.mp increasing).2]
  | case3 paths short => rfl

theorem models_of_files (fs : FileSystem) (settings : Settings) (inputs : List Path)
    (directory : Path) (given : inputs ≠ []) (files : ∀ input ∈ inputs, fs.isFile input = true)
    (increasing : inputs.Pairwise fun a b => a.key < b.key) :
    models fs settings inputs directory = .ok inputs := by
  have taken : inputs.mapM (expand fs settings) = .ok (inputs.map fun input => [input]) := by
    rw [mapM_eq_ok_iff, List.forall₂_map_right_iff, List.forall₂_same]
    intro input member
    exact if_pos (files input member)
  have single : (inputs.map fun input => [input]).flatten = inputs := by
    rw [← List.flatMap_def, List.flatMap_singleton']
  have sorted : inputs.mergeSort Path.le = inputs :=
    List.mergeSort_of_pairwise (increasing.imp fun {a b} before => (Path.le_iff a b).mpr before.le)
  rw [models, if_neg (by simpa using given), taken]
  simp only [Except.map, single, bind, Except.bind, sorted, dropRepeats_of_increasing inputs increasing]
  rfl

end Discovery

end ConventionLint
