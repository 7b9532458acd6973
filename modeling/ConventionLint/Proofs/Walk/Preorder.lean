import ConventionLint.Proofs.Program.Reference
import Mathlib.Data.Finset.Card
import Mathlib.Data.Finset.SDiff

/-!
The walk as a recursion.

The loop pushes all children of an operation at once and asks whether a reference has been visited
only when it takes it from the stack. The recursion asks when it arrives at a reference, and hands the
set of visited references on from one subtree to the next. Both visit the same operations in the same
order: what the loop does with a list of references on top of a stack is what the recursion does with
the list, and the rest of the stack does not matter to it.
-/
namespace ConventionLint.SourceFile

structure Traversal (visited : Finset OperationId) where
  visits : List (OperationId × Operation)
  reached : Finset OperationId
  grows : visited ⊆ reached

def references (file : SourceFile) : Finset OperationId :=
  (Finset.range file.operations.size).image Ref.ofPosition

theorem mem_references (file : SourceFile) (id : OperationId) (operation : Operation)
    (resolved : file.get? id = some operation) : id ∈ file.references := by
  have inside := file.position_lt_size id operation resolved
  exact Finset.mem_image.mpr ⟨id.position, Finset.mem_range.mpr inside, Ref.ofPosition_position id⟩

theorem card_unvisited_lt (file : SourceFile) (visited later : Finset OperationId)
    (id : OperationId) (operation : Operation) (resolved : file.get? id = some operation)
    (fresh : id ∉ visited) (grows : insert id visited ⊆ later) :
    (file.references \ later).card < (file.references \ visited).card := by
  apply Finset.card_lt_card
  refine ⟨?_, ?_⟩
  · exact Finset.sdiff_subset_sdiff (Finset.Subset.refl _)
      ((Finset.subset_insert id visited).trans grows)
  · intro back
    have before : id ∈ file.references \ visited :=
      Finset.mem_sdiff.mpr ⟨file.mem_references id operation resolved, fresh⟩
    have after := (Finset.mem_sdiff.mp (back before)).2
    exact after (grows (Finset.mem_insert_self id visited))

/-- Go through a list of references. One that does not resolve or has been visited is skipped; any
other is visited, then its children are gone through, and then the rest of the list. -/
def traverse (file : SourceFile) (visited : Finset OperationId) :
    List OperationId → Traversal visited
  | [] => ⟨[], visited, Finset.Subset.refl visited⟩
  | id :: ids =>
    match _resolved : file.get? id with
    | none => traverse file visited ids
    | some operation =>
      if _known : id ∈ visited then traverse file visited ids
      else
        let below := traverse file (insert id visited) operation.children
        let after := traverse file below.reached ids
        { visits := (id, operation) :: (below.visits ++ after.visits)
          reached := after.reached
          grows := ((Finset.subset_insert id visited).trans below.grows).trans after.grows }
termination_by ids => ((file.references \ visited).card, ids.length)
decreasing_by
  · exact Prod.Lex.right _ (Nat.lt_succ_self _)
  · exact Prod.Lex.right _ (Nat.lt_succ_self _)
  · exact Prod.Lex.left _ _ (card_unvisited_lt file visited _ id operation _resolved _known
      (Finset.Subset.refl _))
  · exact Prod.Lex.left _ _ (card_unvisited_lt file visited _ id operation _resolved _known
      below.grows)

theorem walkFrom_append (file : SourceFile) (visited : Finset OperationId)
    (ids stack : List OperationId) (seen : Array Bool) (agrees : file.Agrees seen (· ∈ visited)) :
    ∃ marks, file.Agrees marks (· ∈ (file.traverse visited ids).reached) ∧
      file.walkFrom seen (ids ++ stack) =
        (file.traverse visited ids).visits ++ file.walkFrom marks stack := by
  fun_induction traverse file visited ids generalizing seen stack with
  | case1 visited => exact ⟨seen, agrees, rfl⟩
  | case2 visited id ids resolved ih =>
      obtain ⟨marks, agreesAfter, rest⟩ := ih stack seen agrees
      refine ⟨marks, agreesAfter, ?_⟩
      rw [List.cons_append, walkFrom]
      simp only [resolved, rest]
  | case3 visited id ids operation resolved known ih =>
      obtain ⟨marks, agreesAfter, rest⟩ := ih stack seen agrees
      refine ⟨marks, agreesAfter, ?_⟩
      have seenBefore : seen[id.position]? ≠ some false := by
        intro unseen
        exact (agrees id operation resolved).mp unseen known
      rw [List.cons_append, walkFrom]
      simp only [resolved, seenBefore, ↓reduceDIte, rest]
  | case4 visited id ids operation resolved fresh below after ihBelow ihAfter =>
      have unseen : seen[id.position]? = some false := (agrees id operation resolved).mpr fresh
      have agreesMarked : file.Agrees (seen.setIfInBounds id.position true)
          (· ∈ insert id visited) := by
        apply file.agrees_mark seen id _ _ agrees
        intro other
        exact Finset.mem_insert
      -- The children are traversed on top of the siblings, and the siblings on top of the stack.
      obtain ⟨middle, agreesMiddle, children⟩ := ihBelow (ids ++ stack) _ agreesMarked
      obtain ⟨marks, agreesAfter, siblings⟩ := ihAfter stack middle agreesMiddle
      refine ⟨marks, agreesAfter, ?_⟩
      rw [List.cons_append, walkFrom]
      simp only [resolved, unseen, ↓reduceDIte]
      rw [children, siblings, List.cons_append, List.append_assoc]

/-- The visits of the walk, in their order, are those of the recursion that goes through the roots
and starts with nothing visited. -/
theorem walk_eq_traverse (file : SourceFile) :
    file.walk = (file.traverse ∅ file.allRoots).visits := by
  have agrees : file.Agrees (Array.replicate file.operations.size false)
      (· ∈ (∅ : Finset OperationId)) := by
    simpa using file.agrees_start
  obtain ⟨marks, _, visits⟩ := file.walkFrom_append ∅ file.allRoots [] _ agrees
  rw [List.append_nil] at visits
  rw [walk, visits, walkFrom, List.append_nil]

end ConventionLint.SourceFile
