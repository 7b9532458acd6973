import ConventionLint.Proofs.Walk.Loop
import Mathlib.Logic.Relation

/-!
What the walk visits.

The operations visited are those that the roots reach, each of them once. The invariant of the loop
says that a mark stands for a visit, and that whatever has to be visited is either still on the stack
or done with: visited, or a reference that resolves to nothing.
-/
namespace ConventionLint

namespace SourceFile

def Child (file : SourceFile) (parent child : OperationId) : Prop :=
  ∃ operation, file.get? parent = some operation ∧ child ∈ operation.children

/-- Some root leads here, from parent to child in any number of steps. -/
def Reachable (file : SourceFile) (id : OperationId) : Prop :=
  ∃ root ∈ file.allRoots, Relation.ReflTransGen file.Child root id

theorem reachable_root (file : SourceFile) (id : OperationId) (root : id ∈ file.allRoots) :
    file.Reachable id :=
  ⟨id, root, Relation.ReflTransGen.refl⟩

theorem reachable_child (file : SourceFile) (parent child : OperationId)
    (reached : file.Reachable parent) (step : file.Child parent child) : file.Reachable child := by
  obtain ⟨root, listed, path⟩ := reached
  exact ⟨root, listed, path.tail step⟩

end SourceFile

namespace WalkState

/-- Still on the stack, or done with. -/
def Due (file : SourceFile) (state : WalkState) (id : OperationId) : Prop :=
  id ∈ state.stack ∨ ∀ operation, file.get? id = some operation → (id, operation) ∈ state.visits

structure Invariant (file : SourceFile) (state : WalkState) : Prop where
  stacked : ∀ id ∈ state.stack, file.Reachable id
  visited : ∀ visit ∈ state.visits, file.get? visit.1 = some visit.2 ∧ file.Reachable visit.1
  marked : file.Agrees state.seen (· ∈ state.visits.map Prod.fst)
  distinct : (state.visits.map Prod.fst).Nodup
  roots : ∀ id ∈ file.allRoots, state.Due file id
  children : ∀ visit ∈ state.visits, ∀ child ∈ visit.2.children, state.Due file child

theorem start_invariant (file : SourceFile) : (start file).Invariant file where
  stacked := file.reachable_root
  visited := by simp [start]
  marked := by simpa [start] using file.agrees_start
  distinct := by simp [start]
  roots := by
    intro id listed
    exact Or.inl listed
  children := by simp [start]

theorem due_skip (file : SourceFile) (seen : Array Bool) (id other : OperationId)
    (rest : List OperationId) (visits : List (OperationId × Operation))
    (invariant : Invariant file ⟨seen, id :: rest, visits⟩)
    (settled : ∀ operation, file.get? id = some operation → seen[id.position]? ≠ some false)
    (due : Due file ⟨seen, id :: rest, visits⟩ other) : Due file ⟨seen, rest, visits⟩ other := by
  rcases due with stacked | done
  · rcases List.mem_cons.mp stacked with rfl | later
    · right
      intro operation resolved
      have present : other ∈ visits.map Prod.fst := by
        by_contra absent
        exact settled operation resolved ((invariant.marked other operation resolved).mpr absent)
      obtain ⟨⟨found, same⟩, member, rfl⟩ := List.mem_map.mp present
      have resolvedToo := (invariant.visited _ member).1
      rw [resolved] at resolvedToo
      cases resolvedToo
      exact member
    · exact Or.inl later
  · exact Or.inr done

theorem due_visit (file : SourceFile) (seen marks : Array Bool) (id other : OperationId)
    (operation : Operation) (rest : List OperationId) (visits : List (OperationId × Operation))
    (resolved : file.get? id = some operation)
    (due : Due file ⟨seen, id :: rest, visits⟩ other) :
    Due file ⟨marks, operation.children ++ rest, visits ++ [(id, operation)]⟩ other := by
  rcases due with stacked | done
  · rcases List.mem_cons.mp stacked with rfl | later
    · right
      intro same resolvedToo
      rw [resolved] at resolvedToo
      cases resolvedToo
      exact List.mem_append_right visits (List.mem_singleton.mpr rfl)
    · exact Or.inl (List.mem_append_right operation.children later)
  · right
    intro same resolvedToo
    exact List.mem_append_left _ (done same resolvedToo)

theorem skip_invariant (file : SourceFile) (seen : Array Bool) (id : OperationId)
    (rest : List OperationId) (visits : List (OperationId × Operation))
    (invariant : Invariant file ⟨seen, id :: rest, visits⟩)
    (settled : ∀ operation, file.get? id = some operation → seen[id.position]? ≠ some false) :
    Invariant file ⟨seen, rest, visits⟩ where
  stacked := by
    intro other member
    exact invariant.stacked other (List.mem_cons_of_mem id member)
  visited := invariant.visited
  marked := invariant.marked
  distinct := invariant.distinct
  roots := by
    intro other listed
    exact due_skip file seen id other rest visits invariant settled (invariant.roots other listed)
  children := by
    intro visit member child inside
    exact due_skip file seen id child rest visits invariant settled
      (invariant.children visit member child inside)

theorem visit_invariant (file : SourceFile) (seen : Array Bool) (id : OperationId)
    (operation : Operation) (rest : List OperationId) (visits : List (OperationId × Operation))
    (invariant : Invariant file ⟨seen, id :: rest, visits⟩)
    (resolved : file.get? id = some operation) (unseen : seen[id.position]? = some false) :
    Invariant file ⟨seen.setIfInBounds id.position true, operation.children ++ rest,
      visits ++ [(id, operation)]⟩ := by
  have reached : file.Reachable id := invariant.stacked id List.mem_cons_self
  have fresh : id ∉ visits.map Prod.fst := (invariant.marked id operation resolved).mp unseen
  constructor
  · intro other member
    rcases List.mem_append.mp member with child | later
    · exact file.reachable_child id other reached ⟨operation, resolved, child⟩
    · exact invariant.stacked other (List.mem_cons_of_mem id later)
  · intro visit member
    rcases List.mem_append.mp member with old | new
    · exact invariant.visited visit old
    · rw [List.mem_singleton.mp new]
      exact ⟨resolved, reached⟩
  · apply file.agrees_mark seen id _ _ invariant.marked
    intro other
    simp [or_comm]
  · rw [List.map_append]
    exact invariant.distinct.append (List.nodup_singleton id) (by simpa using fresh)
  · intro other listed
    exact due_visit file seen _ id other operation rest visits resolved
      (invariant.roots other listed)
  · intro visit member child inside
    rcases List.mem_append.mp member with old | new
    · exact due_visit file seen _ id child operation rest visits resolved
        (invariant.children visit old child inside)
    · rw [List.mem_singleton.mp new] at inside
      exact Or.inl (List.mem_append_left rest inside)

theorem turn_invariant (file : SourceFile) (state next : WalkState)
    (invariant : state.Invariant file) (taken : state.turn file = some next) :
    next.Invariant file := by
  obtain ⟨seen, stack, visits⟩ := state
  obtain ⟨id, rest, rfl, ⟨settled, rfl⟩ | ⟨operation, resolved, unseen, rfl⟩⟩ :=
    turn_cases file seen stack visits next taken
  · exact skip_invariant file seen id rest visits invariant settled
  · exact visit_invariant file seen id operation rest visits invariant resolved unseen

theorem finish_invariant (file : SourceFile) : (finish file).Invariant file :=
  advance_preserves file (Invariant file) (turn_invariant file) (turnBound file) (start file)
    (start_invariant file)

theorem visited_of_reachable (file : SourceFile) (state : WalkState)
    (invariant : state.Invariant file) (empty : state.stack = []) (id : OperationId)
    (operation : Operation) (reached : file.Reachable id)
    (resolved : file.get? id = some operation) : (id, operation) ∈ state.visits := by
  have done : ∀ other, state.Due file other →
      ∀ entry, file.get? other = some entry → (other, entry) ∈ state.visits := by
    intro other due
    rcases due with stacked | done
    · rw [empty] at stacked
      cases stacked
    · exact done
  obtain ⟨root, listed, path⟩ := reached
  induction path generalizing operation with
  | refl => exact done root (invariant.roots root listed) operation resolved
  | @tail parent child _ step ih =>
      obtain ⟨entry, parentResolved, inside⟩ := step
      have parentVisited := ih entry parentResolved
      exact done child (invariant.children _ parentVisited child inside) operation resolved

end WalkState

namespace SourceFile

theorem walk_distinct (file : SourceFile) : (file.walk.map Prod.fst).Nodup := by
  rw [← WalkState.finish_visits]
  exact (WalkState.finish_invariant file).distinct

theorem mem_walk (file : SourceFile) (id : OperationId) (operation : Operation) :
    (id, operation) ∈ file.walk ↔ file.get? id = some operation ∧ file.Reachable id := by
  rw [← WalkState.finish_visits]
  constructor
  · intro member
    exact (WalkState.finish_invariant file).visited (id, operation) member
  · rintro ⟨resolved, reached⟩
    exact WalkState.visited_of_reachable file _ (WalkState.finish_invariant file)
      (WalkState.finish_stack file) id operation reached resolved

/-- The loop is over after at most one turn for each root and each child, whatever the arena looks
like. No reference is visited twice, and an operation is visited under a reference exactly if the
reference resolves to it and some root leads there. -/
theorem walk_visits_reachable_once (file : SourceFile) :
    let final := WalkState.advance file (file.allRoots.length + file.childRefs.length)
      (WalkState.start file)
    final.turn file = none ∧ final.visits = file.walk ∧ (file.walk.map Prod.fst).Nodup ∧
      ∀ id operation,
        (id, operation) ∈ file.walk ↔ file.get? id = some operation ∧ file.Reachable id := by
  refine ⟨?_, WalkState.finish_visits file, file.walk_distinct, file.mem_walk⟩
  exact (WalkState.turn_eq_none file _).mpr (WalkState.finish_stack file)

end SourceFile

end ConventionLint
