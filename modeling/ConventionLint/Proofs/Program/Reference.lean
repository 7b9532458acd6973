import ConventionLint.Program.Walk
import Mathlib.Logic.Function.Basic
import Mathlib.Tactic.Tauto

namespace ConventionLint

namespace Ref

variable {arena : Arena} {α : Type}

theorem position_injective : Function.Injective (position : Ref arena → Nat) := by
  intro first second same
  cases first
  cases second
  simpa [position, UInt32.toNat_inj] using same

theorem ofPosition_position (ref : Ref arena) : ofPosition ref.position = ref := by
  apply position_injective
  simp [position, ofPosition]

theorem position_ofPosition (i : Nat) (bound : i < 4294967296) :
    (ofPosition i : Ref arena).position = i := by
  simpa [position, ofPosition] using bound

theorem resolve_eq_some (ref : Ref arena) (entries : Array α) (entry : α) :
    ref.resolve? entries = some entry ↔ ref ≠ absent ∧ entries[ref.position]? = some entry := by
  by_cases missing : ref = absent
  · simp [resolve?, isAbsent, missing]
  · simp [resolve?, isAbsent, missing]

theorem resolve_ofPosition (entries : Array α) (bound : entries.size ≤ 4294967295) (i : Nat)
    (entry : α) (found : entries[i]? = some entry) :
    (ofPosition i : Ref arena).resolve? entries = some entry := by
  have inside := (Array.getElem?_eq_some_iff.mp found).1
  have position : (ofPosition i : Ref arena).position = i := position_ofPosition i (by omega)
  apply (resolve_eq_some _ entries entry).mpr
  constructor
  · intro missing
    have largest : (absent : Ref arena).position = 4294967295 := rfl
    rw [missing] at position
    omega
  · rw [position]
    exact found

def numbered (entries : Array α) : List (Ref arena × α) :=
  entries.toList.mapIdx fun i entry => (ofPosition i, entry)

theorem length_numbered (entries : Array α) :
    (numbered entries : List (Ref arena × α)).length = entries.size := by
  rw [numbered, List.length_mapIdx, Array.length_toList]

theorem numbered_push (entries : Array α) (entry : α) :
    (numbered (entries.push entry) : List (Ref arena × α)) =
      numbered entries ++ [(ofPosition entries.size, entry)] := by
  rw [numbered, Array.toList_push, List.mapIdx_concat, Array.length_toList]
  rfl

theorem getElem?_numbered (entries : Array α) (i : Nat) :
    (numbered entries : List (Ref arena × α))[i]? =
      entries[i]?.map fun entry => (ofPosition i, entry) := by
  rw [numbered, List.getElem?_mapIdx, Array.getElem?_toList]

theorem mem_numbered (entries : Array α) (bound : entries.size ≤ 4294967295) (ref : Ref arena)
    (entry : α) : (ref, entry) ∈ numbered entries ↔ ref.resolve? entries = some entry := by
  rw [List.mem_iff_getElem?]
  constructor
  · rintro ⟨i, found⟩
    rw [getElem?_numbered, Option.map_eq_some_iff] at found
    obtain ⟨value, inside, same⟩ := found
    cases same
    exact resolve_ofPosition entries bound i entry inside
  · intro resolved
    have found := ((resolve_eq_some ref entries entry).mp resolved).2
    refine ⟨ref.position, ?_⟩
    rw [getElem?_numbered, found, Option.map_some, ofPosition_position]

theorem mark_unmarked (flags : Array Bool) (i j : Nat) :
    (flags.setIfInBounds i true)[j]? = some false ↔ i ≠ j ∧ flags[j]? = some false := by
  by_cases same : i = j
  · subst same
    rw [Array.getElem?_setIfInBounds_self]
    split <;> simp
  · simp [same, Array.getElem?_setIfInBounds_ne same]

/-- Setting marks never clears one, so a position stays unmarked exactly if it was and no reference
of the list resolves to it. -/
theorem foldl_unmarked (refs : List (Ref arena)) (flags : Array Bool) (i : Nat) :
    (refs.foldl (fun flags ref => if ref.isAbsent then flags
        else flags.setIfInBounds ref.position true) flags)[i]? = some false ↔
      flags[i]? = some false ∧ ∀ ref ∈ refs, ref ≠ absent → ref.position ≠ i := by
  induction refs generalizing flags with
  | nil => simp
  | cons ref refs ih =>
      rw [List.foldl_cons, ih, List.forall_mem_cons]
      by_cases missing : ref = absent
      · simp [isAbsent, missing]
      · simp only [isAbsent, beq_iff_eq, missing, ↓reduceIte, mark_unmarked]
        tauto

theorem marks_unmarked (size : Nat) (refs : List (Ref arena)) (i : Nat) :
    (marks size refs)[i]? = some false ↔
      i < size ∧ ∀ ref ∈ refs, ref ≠ absent → ref.position ≠ i := by
  rw [marks, foldl_unmarked]
  simp [Array.getElem?_replicate]

theorem marks_not_mem (size : Nat) (refs : List (Ref arena)) (ref : Ref arena)
    (present : ref ≠ absent) (inside : ref.position < size) :
    (marks size refs)[ref.position]? = some false ↔ ref ∉ refs := by
  rw [marks_unmarked]
  constructor
  · rintro ⟨_, apart⟩ member
    exact apart ref member present rfl
  · intro missing
    refine ⟨inside, ?_⟩
    intro other member _ same
    rw [position_injective same] at member
    exact missing member

end Ref

namespace SourceFile

theorem get_eq_some (file : SourceFile) (id : OperationId) (operation : Operation) :
    file.get? id = some operation ↔
      id ≠ Ref.absent ∧ file.operations[id.position]? = some operation :=
  Ref.resolve_eq_some id file.operations operation

theorem position_lt_size (file : SourceFile) (id : OperationId) (operation : Operation)
    (resolved : file.get? id = some operation) : id.position < file.operations.size := by
  have entry := ((file.get_eq_some id operation).mp resolved).2
  exact (Array.getElem?_eq_some_iff.mp entry).1

theorem firstChild_eq_some (file : SourceFile) (id : OperationId) (operation target : Operation)
    (resolved : file.get? id = some operation) :
    file.firstChild? id = some target ↔
      ∃ child, operation.children.head? = some child ∧ file.get? child = some target := by
  simp only [firstChild?, resolved]
  cases operation.children with
  | nil => simp
  | cons child rest => simp

/-- Marks on positions that tell, of every reference that resolves, whether it has been visited. -/
def Agrees (file : SourceFile) (seen : Array Bool) (visited : OperationId → Prop) : Prop :=
  ∀ id operation, file.get? id = some operation → (seen[id.position]? = some false ↔ ¬ visited id)

theorem agrees_start (file : SourceFile) :
    file.Agrees (Array.replicate file.operations.size false) fun _ => False := by
  intro id operation resolved
  simp [file.position_lt_size id operation resolved]

theorem agrees_mark (file : SourceFile) (seen : Array Bool) (id : OperationId)
    (visited later : OperationId → Prop) (agrees : file.Agrees seen visited)
    (extended : ∀ other, later other ↔ other = id ∨ visited other) :
    file.Agrees (seen.setIfInBounds id.position true) later := by
  intro other operation resolved
  have apart : id.position ≠ other.position ↔ other ≠ id := by
    rw [Ref.position_injective.ne_iff, ne_comm]
  rw [Ref.mark_unmarked, apart, agrees other operation resolved, extended, not_or]

end SourceFile

end ConventionLint
