import ConventionLint.Program.Basic

/-!
The operations of a file, each once, parents before children and children from left to right.

The walk keeps a stack of references that are still to be visited and marks what it has visited.
Shared children, cycles and dangling references cannot make it visit an operation twice or run on:
every step marks an operation or shortens the stack.
-/
namespace ConventionLint

def Ref.marks {arena : Arena} (size : Nat) (refs : List (Ref arena)) : Array Bool :=
  refs.foldl (fun flags ref => if ref.isAbsent then flags else flags.setIfInBounds ref.position true)
    (Array.replicate size false)

namespace SourceFile

def childRefs (file : SourceFile) : List OperationId := file.operations.toList.flatMap Operation.children

def unreferenced (file : SourceFile) : List OperationId :=
  let size := file.operations.size
  let children := Ref.marks size file.childRefs
  ((List.range size).filter fun i => children[i]? == some false).map Ref.ofPosition

def unlisted (file : SourceFile) : List OperationId :=
  let listed := Ref.marks file.operations.size file.roots
  file.unreferenced.filter fun id => listed[id.position]? == some false

/-- The listed roots, and after them every other operation that is nobody's child. -/
def allRoots (file : SourceFile) : List OperationId :=
  if file.roots.isEmpty then file.unreferenced else file.roots ++ file.unlisted

theorem count_mark_lt {seen : Array Bool} {i : Nat} (unseen : seen[i]? = some false) :
    (seen.setIfInBounds i true).count false < seen.count false := by
  obtain ⟨inside, value⟩ := Array.getElem?_eq_some_iff.mp unseen
  have present : false ∈ seen := value ▸ Array.getElem_mem inside
  have positive := Array.count_pos_iff.mpr present
  rw [Array.setIfInBounds_def, dif_pos inside, Array.count_set inside, value]
  simp only [beq_self_eq_true, ↓reduceIte, Bool.true_beq, Bool.false_eq_true]
  omega

/-- The visits that a stack of references leads to, given what has been seen. -/
def walkFrom (file : SourceFile) (seen : Array Bool) :
    List OperationId → List (OperationId × Operation)
  | [] => []
  | id :: stack =>
    match file.get? id with
    | none => walkFrom file seen stack
    | some operation =>
      if _unseen : seen[id.position]? = some false then
        (id, operation) :: walkFrom file (seen.setIfInBounds id.position true) (operation.children ++ stack)
      else walkFrom file seen stack
termination_by stack => (seen.count false, stack.length)
decreasing_by
  · exact Prod.Lex.right _ (Nat.lt_succ_self _)
  · exact Prod.Lex.left _ _ (count_mark_lt _unseen)
  · exact Prod.Lex.right _ (Nat.lt_succ_self _)

def walk (file : SourceFile) : List (OperationId × Operation) :=
  file.walkFrom (Array.replicate file.operations.size false) file.allRoots

end SourceFile

end ConventionLint
