import ConventionLint.Proofs.Program.Reference
import Mathlib.Algebra.BigOperators.Fin

/-!
The walk as a loop.

One turn takes a reference from the stack and either drops it or visits its operation. A turn that
visits may push more than it takes, but only children of an operation that was not yet seen. So the
length of the stack and the number of children of unseen operations together fall by one with every
turn, and the loop is over after at most as many turns as there are roots and children.
-/
namespace ConventionLint

structure WalkState where
  seen : Array Bool
  stack : List OperationId
  visits : List (OperationId × Operation)

namespace WalkState

def start (file : SourceFile) : WalkState where
  seen := Array.replicate file.operations.size false
  stack := file.allRoots
  visits := []

def turn (file : SourceFile) (state : WalkState) : Option WalkState :=
  match state.stack with
  | [] => none
  | id :: stack =>
    match file.get? id with
    | none => some { state with stack := stack }
    | some operation =>
      if state.seen[id.position]? = some false then
        some
          { seen := state.seen.setIfInBounds id.position true
            stack := operation.children ++ stack
            visits := state.visits ++ [(id, operation)] }
      else some { state with stack := stack }

def advance (file : SourceFile) : Nat → WalkState → WalkState
  | 0, state => state
  | turns + 1, state =>
    match state.turn file with
    | none => state
    | some next => advance file turns next

def turnBound (file : SourceFile) : Nat := file.allRoots.length + file.childRefs.length

def finish (file : SourceFile) : WalkState := advance file (turnBound file) (start file)

theorem turn_eq_none (file : SourceFile) (state : WalkState) :
    state.turn file = none ↔ state.stack = [] := by
  obtain ⟨seen, stack, visits⟩ := state
  cases stack with
  | nil => simp [turn]
  | cons id stack =>
      cases resolved : file.get? id with
      | none => simp [turn, resolved]
      | some operation =>
          by_cases unseen : seen[id.position]? = some false
          · simp [turn, resolved, unseen]
          · simp [turn, resolved, unseen]

theorem turn_cases (file : SourceFile) (seen : Array Bool) (stack : List OperationId)
    (visits : List (OperationId × Operation)) (next : WalkState)
    (taken : turn file ⟨seen, stack, visits⟩ = some next) :
    ∃ id rest, stack = id :: rest ∧
      (((∀ operation, file.get? id = some operation → seen[id.position]? ≠ some false) ∧
          next = ⟨seen, rest, visits⟩) ∨
        ∃ operation, file.get? id = some operation ∧ seen[id.position]? = some false ∧
          next = ⟨seen.setIfInBounds id.position true, operation.children ++ rest,
            visits ++ [(id, operation)]⟩) := by
  cases stack with
  | nil => simp [turn] at taken
  | cons id rest =>
      refine ⟨id, rest, rfl, ?_⟩
      cases resolved : file.get? id with
      | none =>
          left
          simp only [turn, resolved, Option.some.injEq] at taken
          exact ⟨by simp, taken.symm⟩
      | some operation =>
          by_cases unseen : seen[id.position]? = some false
          · right
            simp only [turn, resolved, unseen, ↓reduceIte, Option.some.injEq] at taken
            exact ⟨operation, rfl, unseen, taken.symm⟩
          · left
            simp only [turn, resolved, unseen, ↓reduceIte, Option.some.injEq] at taken
            exact ⟨by simpa using unseen, taken.symm⟩

theorem advance_preserves (file : SourceFile) (kept : WalkState → Prop)
    (step : ∀ state next, kept state → state.turn file = some next → kept next)
    (turns : Nat) (state : WalkState) (holds : kept state) : kept (advance file turns state) := by
  induction turns generalizing state with
  | zero => exact holds
  | succ turns ih =>
      cases taken : state.turn file with
      | none => simpa only [advance, taken] using holds
      | some next =>
          have later := ih next (step state next holds taken)
          simpa only [advance, taken] using later

/-- The visits so far, and those that the stack still leads to. -/
def outcome (file : SourceFile) (state : WalkState) : List (OperationId × Operation) :=
  state.visits ++ file.walkFrom state.seen state.stack

theorem turn_outcome (file : SourceFile) (state next : WalkState)
    (taken : state.turn file = some next) : next.outcome file = state.outcome file := by
  obtain ⟨seen, stack, visits⟩ := state
  obtain ⟨id, rest, rfl, ⟨settled, rfl⟩ | ⟨operation, resolved, unseen, rfl⟩⟩ :=
    turn_cases file seen stack visits next taken
  · cases resolved : file.get? id with
    | none => simp only [outcome, SourceFile.walkFrom, resolved]
    | some operation =>
        simp only [outcome, SourceFile.walkFrom, resolved, settled operation resolved, ↓reduceDIte]
  · simp only [outcome, SourceFile.walkFrom, resolved, unseen, ↓reduceDIte, List.append_assoc,
      List.singleton_append]

def childCount (operations : List Operation) (i : Nat) : Nat :=
  (operations[i]?.map fun operation => operation.children.length).getD 0

theorem sum_childCount (operations : List Operation) :
    ∑ i ∈ Finset.range operations.length, childCount operations i =
      (operations.flatMap Operation.children).length := by
  induction operations with
  | nil => simp
  | cons operation operations ih =>
      rw [List.length_cons, Finset.sum_range_succ', List.flatMap_cons, List.length_append, ← ih,
        Nat.add_comm]
      rfl

def unmarked (file : SourceFile) (seen : Array Bool) : Finset Nat :=
  (Finset.range file.operations.size).filter fun i => seen[i]? = some false

def potential (file : SourceFile) (state : WalkState) : Nat :=
  state.stack.length + ∑ i ∈ unmarked file state.seen, childCount file.operations.toList i

theorem unmarked_mark (file : SourceFile) (seen : Array Bool) (i : Nat) :
    unmarked file (seen.setIfInBounds i true) = (unmarked file seen).erase i := by
  ext j
  simp only [unmarked, Ref.mark_unmarked, Finset.mem_filter, Finset.mem_erase]
  tauto

theorem turn_potential (file : SourceFile) (state next : WalkState)
    (taken : state.turn file = some next) : next.potential file + 1 = state.potential file := by
  obtain ⟨seen, stack, visits⟩ := state
  obtain ⟨id, rest, rfl, ⟨_, rfl⟩ | ⟨operation, resolved, unseen, rfl⟩⟩ :=
    turn_cases file seen stack visits next taken
  · simp only [potential, List.length_cons]
    omega
  · have entry := ((file.get_eq_some id operation).mp resolved).2
    have member : id.position ∈ unmarked file seen := by
      simp [unmarked, unseen, file.position_lt_size id operation resolved]
    have count : childCount file.operations.toList id.position = operation.children.length := by
      simp [childCount, entry]
    -- What the stack gains are the children of the operation, and they no longer count as unseen.
    have parts := Finset.add_sum_erase _ (childCount file.operations.toList) member
    simp only [potential, unmarked_mark, List.length_append, List.length_cons]
    omega

theorem advance_stops (file : SourceFile) (turns : Nat) (state : WalkState)
    (enough : state.potential file ≤ turns) : (advance file turns state).stack = [] := by
  induction turns generalizing state with
  | zero =>
      have empty : state.stack.length = 0 := by
        simp only [potential] at enough
        omega
      exact List.length_eq_zero_iff.mp empty
  | succ turns ih =>
      cases taken : state.turn file with
      | none => simpa only [advance, taken] using (turn_eq_none file state).mp taken
      | some next =>
          have spent := turn_potential file state next taken
          simpa only [advance, taken] using ih next (by omega)

theorem start_potential (file : SourceFile) : (start file).potential file = turnBound file := by
  have everything : unmarked file (start file).seen = Finset.range file.operations.size := by
    ext i
    simp [unmarked, start, Array.getElem?_replicate]
  rw [potential, everything, ← Array.length_toList, sum_childCount]
  rfl

theorem finish_stack (file : SourceFile) : (finish file).stack = [] :=
  advance_stops file _ _ (start_potential file).le

theorem finish_visits (file : SourceFile) : (finish file).visits = file.walk := by
  have kept := advance_preserves file (fun state => state.outcome file = file.walk)
    (fun state next holds taken => (turn_outcome file state next taken).trans holds)
    (turnBound file) (start file) rfl
  change (finish file).outcome file = file.walk at kept
  rw [outcome, finish_stack] at kept
  simpa [SourceFile.walkFrom] using kept

end WalkState

end ConventionLint
