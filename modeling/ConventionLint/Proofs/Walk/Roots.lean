import ConventionLint.Proofs.Program.Reference

/-!
The roots that the walk starts from.

Children and listed roots are marked by position, and a reference to nothing marks nothing. Since every
position of the arena has a reference of its own, a position is left unmarked exactly if this reference
is in none of the lists. So the roots are the listed ones as they stand and, after them, the operations
in order that no list mentions; and where nothing is listed, it makes no difference that the marks of
listed roots are left out.
-/
namespace ConventionLint

structure Ref.Enumerates {arena : Arena} (property : Ref arena → Prop) (refs : List (Ref arena)) :
    Prop where
  increasing : refs.Pairwise fun first second => first.position < second.position
  members : ∀ ref, ref ∈ refs ↔ property ref

theorem Ref.Enumerates.filter {arena : Arena} {property : Ref arena → Prop} {refs : List (Ref arena)}
    (all : Enumerates property refs) (test : Ref arena → Bool) :
    Enumerates (fun ref => property ref ∧ test ref = true) (refs.filter test) where
  increasing := all.increasing.filter test
  members ref := by rw [List.mem_filter, all.members]

namespace SourceFile

def Parentless (file : SourceFile) (id : OperationId) : Prop :=
  id.position < file.operations.size ∧ ∀ operation ∈ file.operations, id ∉ operation.children

theorem not_mem_childRefs (file : SourceFile) (id : OperationId) :
    id ∉ file.childRefs ↔ ∀ operation ∈ file.operations, id ∉ operation.children := by
  simp [childRefs, List.mem_flatMap]

theorem position_lt_of_unreferenced (file : SourceFile) (id : OperationId)
    (member : id ∈ file.unreferenced) : id.position < file.operations.size := by
  obtain ⟨i, kept, rfl⟩ := List.mem_map.mp member
  have inside : i < file.operations.size := List.mem_range.mp (List.mem_filter.mp kept).1
  have wrapped : (Ref.ofPosition i : OperationId).position ≤ i := by
    simpa [Ref.position, Ref.ofPosition] using Nat.mod_le i 4294967296
  exact Nat.lt_of_le_of_lt wrapped inside

theorem unlisted_of_no_roots (file : SourceFile) (empty : file.roots = []) :
    file.unlisted = file.unreferenced := by
  apply List.filter_eq_self.mpr
  intro id member
  have unmarked : (Ref.marks file.operations.size file.roots)[id.position]? = some false := by
    rw [Ref.marks_unmarked, empty]
    exact ⟨file.position_lt_of_unreferenced id member, by simp⟩
  exact beq_iff_eq.mpr unmarked

theorem allRoots_eq (file : SourceFile) : file.allRoots = file.roots ++ file.unlisted := by
  rw [allRoots]
  split
  · next empty =>
      have none : file.roots = [] := List.isEmpty_iff.mp empty
      rw [file.unlisted_of_no_roots none, none, List.nil_append]
  · rfl

section Bounded

variable (file : SourceFile) (bound : file.operations.size ≤ 4294967295)

include bound

theorem ne_absent_of_position_lt (id : OperationId) (inside : id.position < file.operations.size) :
    id ≠ Ref.absent := by
  rintro rfl
  have largest : (Ref.absent : OperationId).position = 4294967295 := rfl
  omega

theorem unreferenced_enumerates : Ref.Enumerates file.Parentless file.unreferenced := by
  have place : ∀ i < file.operations.size, (Ref.ofPosition i : OperationId).position = i := by
    intro i inside
    exact Ref.position_ofPosition i (by omega)
  constructor
  · apply List.pairwise_map.mpr
    refine (List.pairwise_lt_range.filter _).imp_of_mem ?_
    intro i j first second before
    rw [place i (List.mem_range.mp (List.mem_filter.mp first).1),
      place j (List.mem_range.mp (List.mem_filter.mp second).1)]
    exact before
  · intro id
    have marked : ∀ inside : id.position < file.operations.size,
        (Ref.marks file.operations.size file.childRefs)[id.position]? = some false ↔
          ∀ operation ∈ file.operations, id ∉ operation.children := by
      intro inside
      rw [Ref.marks_not_mem _ _ id (file.ne_absent_of_position_lt bound id inside) inside,
        not_mem_childRefs]
    constructor
    · intro member
      have inside := file.position_lt_of_unreferenced id member
      refine ⟨inside, (marked inside).mp ?_⟩
      obtain ⟨i, kept, rfl⟩ := List.mem_map.mp member
      obtain ⟨range, unmarked⟩ := List.mem_filter.mp kept
      rw [place i (List.mem_range.mp range)]
      exact beq_iff_eq.mp unmarked
    · rintro ⟨inside, orphan⟩
      refine List.mem_map.mpr ⟨id.position, ?_, Ref.ofPosition_position id⟩
      exact List.mem_filter.mpr ⟨List.mem_range.mpr inside, beq_iff_eq.mpr ((marked inside).mpr orphan)⟩

theorem unlisted_enumerates :
    Ref.Enumerates (fun id => file.Parentless id ∧ id ∉ file.roots) file.unlisted := by
  have kept := (file.unreferenced_enumerates bound).filter fun id =>
    (Ref.marks file.operations.size file.roots)[id.position]? == some false
  refine ⟨kept.increasing, ?_⟩
  intro id
  refine (kept.members id).trans (and_congr_right fun orphan => ?_)
  rw [beq_iff_eq, Ref.marks_not_mem _ _ id (file.ne_absent_of_position_lt bound id orphan.1) orphan.1]

end Bounded

/-- The roots are the listed ones, whatever they refer to, and after them the operations in order that
are nobody's child and are not listed. If nothing is listed they are all operations that are nobody's
child, which is also what the marks of the listed roots would leave. -/
theorem allRoots_listed_then_parentless (file : SourceFile)
    (bound : file.operations.size ≤ 4294967295) :
    (∃ others, file.allRoots = file.roots ++ others ∧
      Ref.Enumerates (fun id => file.Parentless id ∧ id ∉ file.roots) others) ∧
    (file.roots = [] → Ref.Enumerates file.Parentless file.allRoots ∧
      file.allRoots = file.unreferenced ∧ file.roots ++ file.unlisted = file.unreferenced) := by
  refine ⟨⟨file.unlisted, file.allRoots_eq, file.unlisted_enumerates bound⟩, ?_⟩
  intro empty
  have early : file.allRoots = file.unreferenced := by simp [allRoots, empty]
  refine ⟨early ▸ file.unreferenced_enumerates bound, early, ?_⟩
  rw [← file.allRoots_eq, early]

def mixedRoots : SourceFile where
  name := "mixed"
  operations :=
    #[⟨.literal, .literal, ⟨0, 1⟩, [], .absent⟩,
      ⟨.block, .block, ⟨0, 2⟩, [⟨0⟩, .absent, ⟨9⟩], .absent⟩,
      ⟨.block, .block, ⟨0, 3⟩, [⟨2⟩], .absent⟩,
      ⟨.literal, .literal, ⟨4, 5⟩, [], .absent⟩,
      ⟨.literal, .literal, ⟨6, 7⟩, [], .absent⟩]
  roots := [⟨3⟩, ⟨0⟩, .absent, ⟨3⟩, ⟨9⟩]

theorem mixedRoots_allRoots :
    mixedRoots.operations.size ≤ 4294967295 ∧
      ∃ others, mixedRoots.allRoots = mixedRoots.roots ++ others ∧ others = [⟨1⟩, ⟨4⟩] ∧
        Ref.Enumerates (fun id => mixedRoots.Parentless id ∧ id ∉ mixedRoots.roots) others := by
  have bound : mixedRoots.operations.size ≤ 4294967295 := by decide
  obtain ⟨others, split, enumerates⟩ := (mixedRoots.allRoots_listed_then_parentless bound).1
  have computed : mixedRoots.allRoots = mixedRoots.roots ++ [⟨1⟩, ⟨4⟩] := by decide
  exact ⟨bound, others, split, List.append_cancel_left (split.symm.trans computed), enumerates⟩

end SourceFile

end ConventionLint
