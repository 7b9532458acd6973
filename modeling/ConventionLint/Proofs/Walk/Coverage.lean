import ConventionLint.Proofs.Walk.Reachability
import ConventionLint.Proofs.Walk.Roots
import Mathlib.Data.Fintype.Card

/-!
Arenas without cycles are visited completely.

An operation that is nobody's child is a root, listed or not. In an arena without cycles every other
operation has a parent, and going from parent to parent ends at such a root. So the roots reach
every operation, however the listed ones were chosen.
-/
namespace ConventionLint

instance (arena : Arena) : Finite (Ref arena) := by
  apply Finite.of_injective fun ref : Ref arena => ref.index.toFin
  intro first second same
  exact Ref.position_injective (congrArg Fin.val same)

namespace SourceFile

def Acyclic (file : SourceFile) : Prop := ∀ id, ¬ Relation.TransGen file.Child id id

def arena (file : SourceFile) : List (OperationId × Operation) :=
  file.operations.toList.mapIdx fun i operation => (Ref.ofPosition i, operation)

theorem child_wellFounded (file : SourceFile) (acyclic : file.Acyclic) :
    WellFounded file.Child := by
  have irreflexive : Std.Irrefl (Relation.TransGen file.Child) := ⟨acyclic⟩
  have descent : WellFounded (Relation.TransGen file.Child) :=
    Finite.wellFounded_of_trans_of_irrefl _
  exact Subrelation.wf Relation.TransGen.single descent

theorem parent_lt_size (file : SourceFile) (parent child : OperationId)
    (step : file.Child parent child) : parent.position < file.operations.size := by
  obtain ⟨operation, resolved, _⟩ := step
  exact file.position_lt_size parent operation resolved

/-- An arena in which children that resolve stand before their parents has no cycle. -/
theorem acyclic_of_descending (file : SourceFile)
    (descending : ∀ i (inside : i < file.operations.size), ∀ child ∈ file.operations[i].children,
      child.position < file.operations.size → child.position < i) : file.Acyclic := by
  have below : ∀ parent child, file.Child parent child →
      child.position < file.operations.size → child.position < parent.position := by
    rintro parent child ⟨operation, resolved, member⟩ inside
    have entry := ((file.get_eq_some parent operation).mp resolved).2
    obtain ⟨bound, value⟩ := Array.getElem?_eq_some_iff.mp entry
    exact descending parent.position bound child (value ▸ member) inside
  -- A path goes on only from operations that resolve, so the condition is needed of its end alone.
  have path : ∀ first last, Relation.TransGen file.Child first last →
      last.position < file.operations.size → last.position < first.position := by
    intro first last steps
    induction steps with
    | single step => exact below _ _ step
    | @tail middle last _ step ih =>
        intro inside
        have lower := ih (file.parent_lt_size middle last step)
        exact (below middle last step inside).trans lower
  intro id cycle
  obtain ⟨next, step, _⟩ := Relation.TransGen.head'_iff.mp cycle
  exact Nat.lt_irrefl _ (path id id cycle (file.parent_lt_size id next step))

theorem get_ofPosition (file : SourceFile) (bound : file.operations.size ≤ 4294967295) (i : Nat)
    (operation : Operation) (entry : file.operations[i]? = some operation) :
    file.get? (Ref.ofPosition i) = some operation :=
  Ref.resolve_ofPosition file.operations bound i operation entry

theorem exists_parent (file : SourceFile) (bound : file.operations.size ≤ 4294967295)
    (child : OperationId) (referenced : child ∈ file.childRefs) :
    ∃ parent, file.Child parent child := by
  obtain ⟨operation, present, member⟩ := List.mem_flatMap.mp referenced
  obtain ⟨i, entry⟩ := List.mem_iff_getElem?.mp present
  rw [Array.getElem?_toList] at entry
  exact ⟨Ref.ofPosition i, operation, file.get_ofPosition bound i operation entry, member⟩

theorem mem_allRoots_of_unreferenced (file : SourceFile) (id : OperationId)
    (operation : Operation) (resolved : file.get? id = some operation)
    (unreferenced : id ∉ file.childRefs) : id ∈ file.allRoots := by
  have present := ((file.get_eq_some id operation).mp resolved).1
  have inside := file.position_lt_size id operation resolved
  have own : id ∈ file.unreferenced := by
    have unmarked := (Ref.marks_not_mem _ file.childRefs id present inside).mpr unreferenced
    refine List.mem_map.mpr ⟨id.position, ?_, Ref.ofPosition_position id⟩
    simp [inside, unmarked]
  rw [allRoots_eq]
  by_cases listed : id ∈ file.roots
  · exact List.mem_append_left file.unlisted listed
  · have unmarked := (Ref.marks_not_mem _ file.roots id present inside).mpr listed
    apply List.mem_append_right
    exact List.mem_filter.mpr ⟨own, by simp [unmarked]⟩

theorem reachable_of_acyclic (file : SourceFile) (bound : file.operations.size ≤ 4294967295)
    (acyclic : file.Acyclic) (id : OperationId) (operation : Operation)
    (resolved : file.get? id = some operation) : file.Reachable id := by
  -- From parent to parent: the hypothesis is about all parents of the operation.
  induction id using (file.child_wellFounded acyclic).induction generalizing operation with
  | _ id ih =>
      by_cases referenced : id ∈ file.childRefs
      · obtain ⟨parent, entry, parentResolved, member⟩ := file.exists_parent bound id referenced
        have step : file.Child parent id := ⟨entry, parentResolved, member⟩
        exact file.reachable_child parent id (ih parent step entry parentResolved) step
      · exact file.reachable_root id
          (file.mem_allRoots_of_unreferenced id operation resolved referenced)

theorem mem_arena (file : SourceFile) (bound : file.operations.size ≤ 4294967295)
    (id : OperationId) (operation : Operation) :
    (id, operation) ∈ file.arena ↔ file.get? id = some operation :=
  Ref.mem_numbered file.operations bound id operation

theorem arena_distinct (file : SourceFile) (bound : file.operations.size ≤ 4294967295) :
    file.arena.Nodup := by
  apply List.pairwise_iff_getElem.mpr
  intro i j first second before same
  simp only [arena, List.length_mapIdx, Array.length_toList] at first second
  simp only [arena, List.getElem_mapIdx, Prod.mk.injEq] at same
  have positions := congrArg Ref.position same.1
  rw [Ref.position_ofPosition i (by omega), Ref.position_ofPosition j (by omega)] at positions
  omega

/-- In an arena without cycles the walk visits every operation exactly once, whatever roots are
listed: none, some, some twice, operations that have parents, or references to nothing. -/
theorem walk_perm_arena (file : SourceFile) (bound : file.operations.size ≤ 4294967295)
    (acyclic : file.Acyclic) : file.walk.Perm file.arena := by
  have distinct : file.walk.Nodup := file.walk_distinct.of_map Prod.fst
  apply (List.perm_ext_iff_of_nodup distinct (file.arena_distinct bound)).mpr
  rintro ⟨id, operation⟩
  rw [file.mem_walk, file.mem_arena bound]
  constructor
  · intro visited
    exact visited.1
  · intro resolved
    exact ⟨resolved, file.reachable_of_acyclic bound acyclic id operation resolved⟩

def sharedChildren : SourceFile where
  name := "shared"
  operations :=
    #[⟨.literal, .literal, ⟨0, 1⟩, [], .absent⟩,
      ⟨.block, .block, ⟨0, 2⟩, [⟨0⟩, ⟨0⟩, ⟨7⟩], .absent⟩,
      ⟨.block, .block, ⟨0, 3⟩, [⟨0⟩, .absent, ⟨1⟩], .absent⟩,
      ⟨.literal, .literal, ⟨4, 5⟩, [], .absent⟩]
  roots := [⟨1⟩, ⟨1⟩, .absent, ⟨9⟩]

theorem walk_sharedChildren :
    sharedChildren.operations.size ≤ 4294967295 ∧ sharedChildren.Acyclic ∧
      sharedChildren.walk.Perm sharedChildren.arena := by
  have acyclic : sharedChildren.Acyclic := sharedChildren.acyclic_of_descending (by decide)
  exact ⟨by decide, acyclic, sharedChildren.walk_perm_arena (by decide) acyclic⟩

end SourceFile

end ConventionLint
