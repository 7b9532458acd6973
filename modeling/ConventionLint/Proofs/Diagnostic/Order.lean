import ConventionLint.Diagnostic
import Mathlib.Data.Prod.Lex
import Mathlib.Data.String.Basic

/-!
The order of diagnostics as a lexicographic key, and sorting as the stable sort by that key.

A stable sort is determined by its input: the keys fix the order up to ties, and the input fixes the
order of ties. So two sorted lists are compared key by key, and nothing has to be known about how
they were sorted.
-/
namespace ConventionLint

/-- The output has the entries of the input, ordered by their keys; entries of one key stand in the
order of the input. -/
structure StableSort {α κ : Type} [LinearOrder κ] (key : α → κ) (input output : List α) :
    Prop where
  perm : output.Perm input
  sorted : output.Pairwise fun a b => key a ≤ key b
  ties : ∀ k, output.filter (fun a => key a = k) = input.filter (fun a => key a = k)

namespace StableSort

variable {α κ : Type} [LinearOrder κ] {key : α → κ}

theorem eq_of_ties (first second : List α) (perm : first.Perm second)
    (sorted : first.Pairwise fun a b => key a ≤ key b)
    (sorted' : second.Pairwise fun a b => key a ≤ key b)
    (ties : ∀ k, first.filter (fun a => key a = k) = second.filter (fun a => key a = k)) :
    first = second := by
  induction first generalizing second with
  | nil => exact perm.nil_eq
  | cons a first ih =>
      cases second with
      | nil => exact perm.eq_nil
      | cons b second =>
          have least := List.pairwise_cons.mp sorted
          have least' := List.pairwise_cons.mp sorted'
          have same : key b = key a := by
            apply le_antisymm
            · rcases List.mem_cons.mp (perm.mem_iff.mp List.mem_cons_self) with rfl | later
              · exact le_rfl
              · exact least'.1 a later
            · rcases List.mem_cons.mp (perm.mem_iff.mpr List.mem_cons_self) with rfl | later
              · exact le_rfl
              · exact least.1 b later
          -- Both heads have the least key, so each is the first of the ties of that key.
          have heads : a = b := by
            have tied := ties (key a)
            simp only [List.filter_cons, same, decide_true, ↓reduceIte] at tied
            exact (List.cons.inj tied).1
          subst heads
          rw [ih second perm.cons_inv least.2 least'.2]
          intro k
          have tied := ties k
          by_cases first : key a = k
          · simpa [List.filter_cons, first] using tied
          · simpa [List.filter_cons, first] using tied

theorem unique (input first second : List α) (one : StableSort key input first)
    (two : StableSort key input second) : first = second := by
  apply eq_of_ties first second (one.perm.trans two.perm.symm) one.sorted two.sorted
  intro k
  rw [one.ties, two.ties]

theorem of_mergeSort (le : α → α → Bool) (compares : ∀ a b, le a b = true ↔ key a ≤ key b)
    (input : List α) : StableSort key input (input.mergeSort le) := by
  have transitive : ∀ a b c, le a b = true → le b c = true → le a c = true := by
    intro a b c before after
    exact (compares a c).mpr (((compares a b).mp before).trans ((compares b c).mp after))
  have total : ∀ a b, (le a b || le b a) = true := by
    intro a b
    rw [Bool.or_eq_true, compares, compares]
    exact le_total (key a) (key b)
  have perm := List.mergeSort_perm input le
  refine ⟨perm, (List.pairwise_mergeSort transitive total input).imp (compares _ _).mp, ?_⟩
  intro k
  have tied : (input.filter fun a => key a = k).Pairwise fun a b => le a b = true := by
    apply List.pairwise_of_forall_mem_list
    intro a inFirst b inSecond
    simp only [List.mem_filter, decide_eq_true_eq] at inFirst inSecond
    exact (compares a b).mpr (inFirst.2.trans inSecond.2.symm).le
  -- The ties are a sorted sublist of the input, and sorting keeps such a sublist.
  have kept := (List.sublist_mergeSort transitive total tied List.filter_sublist).filter
    fun a => decide (key a = k)
  rw [List.filter_filter] at kept
  simp only [Bool.and_self] at kept
  exact (kept.eq_of_length (perm.filter _).length_eq.symm).symm

theorem filterMap (change : α → Option α)
    (keeps : ∀ a b, change a = some b → key b = key a) (input output : List α)
    (stable : StableSort key input output) :
    StableSort key (input.filterMap change) (output.filterMap change) := by
  have commute : ∀ (k : κ) (list : List α),
      (list.filterMap change).filter (fun a => key a = k) =
        (list.filter fun a => key a = k).filterMap change := by
    intro k list
    rw [List.filter_filterMap, List.filterMap_filter]
    congr 1
    funext a
    cases changed : change a with
    | none => simp
    | some b => simp [Option.filter, keeps a b changed]
  refine ⟨stable.perm.filterMap change, ?_, ?_⟩
  · apply stable.sorted.filterMap change
    intro a b before c changed d changed'
    rw [keeps a c changed, keeps b d changed']
    exact before
  · intro k
    rw [commute, commute, stable.ties]

end StableSort

namespace Diagnostic

def key (d : Diagnostic) : String ×ₗ ℕ ×ₗ ℕ ×ₗ String :=
  toLex (d.file, toLex (d.start.toNat, toLex (d.length.toNat, d.id)))

theorem precedes_iff (a b : Diagnostic) : a.precedes b = true ↔ a.key ≤ b.key := by
  simp only [key, Prod.Lex.toLex_le_toLex, UInt32.toNat_inj, ← UInt32.lt_iff_toNat_lt]
  unfold precedes
  by_cases file : a.file = b.file
  · by_cases start : a.start = b.start
    · by_cases length : a.length = b.length
      · simp [file, start, length]
      · simp [file, start, length]
    · simp [file, start]
  · simp [file]

theorem sort_stable (diagnostics : List Diagnostic) :
    StableSort key diagnostics (sort diagnostics) :=
  StableSort.of_mergeSort precedes precedes_iff diagnostics

/-- Dropping and changing entries before sorting is the same as after it, as long as no key
changes. -/
theorem sort_filterMap (change : Diagnostic → Option Diagnostic)
    (keeps : ∀ a b, change a = some b → b.key = a.key) (diagnostics : List Diagnostic) :
    sort (diagnostics.filterMap change) = (sort diagnostics).filterMap change :=
  StableSort.unique _ _ _ (sort_stable _)
    ((sort_stable diagnostics).filterMap change keeps diagnostics _)

theorem filter_sort (keep : Diagnostic → Bool) (diagnostics : List Diagnostic) :
    (sort diagnostics).filter keep = sort (diagnostics.filter keep) := by
  rw [← List.filterMap_eq_filter, sort_filterMap]
  intro a b kept
  rw [(Option.guard_eq_some_iff.mp kept).1]

end Diagnostic

end ConventionLint
