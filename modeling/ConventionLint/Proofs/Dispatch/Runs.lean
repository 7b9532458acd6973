import ConventionLint.Dispatch
import Mathlib.Data.List.Nodup

namespace ConventionLint.Dispatch

variable {α : Type}

def registerEach (table : Dispatch α) (calls : List (α × List OperationKind)) : Dispatch α :=
  calls.foldl (fun table call => table.register call.1 call.2) table

theorem lookup_appendAction (kind wanted : OperationKind) (action : α)
    (entries : List (OperationKind × List α)) :
    ((appendAction kind action entries).lookup wanted).getD [] =
      (entries.lookup wanted).getD [] ++ if wanted = kind then [action] else [] := by
  induction entries with
  | nil =>
      by_cases same : wanted = kind
      · simp [appendAction, same]
      · simp [appendAction, List.lookup_cons, beq_eq_false_iff_ne.mpr same, same]
  | cons entry entries ih =>
      obtain ⟨key, actions⟩ := entry
      by_cases listed : key = kind
      · subst listed
        by_cases same : wanted = key
        · simp [appendAction, same]
        · simp [appendAction, List.lookup_cons, beq_eq_false_iff_ne.mpr same, same]
      · by_cases found : wanted = key
        · subst found
          simp [appendAction, listed]
        · simp [appendAction, listed, List.lookup_cons, beq_eq_false_iff_ne.mpr found, ih]

theorem actionsFor_register (table : Dispatch α) (action : α) (kinds : List OperationKind)
    (kind : OperationKind) :
    (table.register action kinds).actionsFor kind =
      table.actionsFor kind ++ List.replicate (kinds.count kind) action := by
  obtain ⟨entries⟩ := table
  simp only [actionsFor, register]
  induction kinds generalizing entries with
  | nil => simp
  | cons first kinds ih =>
      rw [List.foldl_cons, ih, lookup_appendAction, List.append_assoc]
      by_cases same : kind = first
      · simp [same, List.replicate_succ]
      · simp [same, List.count_cons_of_ne (Ne.symm same)]

theorem actionsFor_registerEach (table : Dispatch α) (calls : List (α × List OperationKind))
    (kind : OperationKind) :
    (table.registerEach calls).actionsFor kind =
      table.actionsFor kind ++ calls.flatMap fun call => List.replicate (call.2.count kind) call.1 := by
  induction calls generalizing table with
  | nil => simp [registerEach]
  | cons call calls ih =>
      have step : table.registerEach (call :: calls) =
          (table.register call.1 call.2).registerEach calls := rfl
      rw [step, ih, actionsFor_register, List.flatMap_cons, List.append_assoc]

example : ((empty : Dispatch Nat).registerEach
    [(0, [.literal, .block, .literal]), (1, []), (2, [.literal])]).actionsFor .literal = [0, 0, 2] := by
  decide

theorem actionsFor_of_isEmpty (table : Dispatch α) (empty : table.isEmpty = true)
    (kind : OperationKind) : table.actionsFor kind = [] := by
  have none : table.entries = [] := List.isEmpty_iff.mp empty
  rw [actionsFor, none]
  rfl

/-- Every kind has at most one entry, and every entry has an action. -/
structure WellFormed (table : Dispatch α) : Prop where
  distinct : table.kinds.Nodup
  inhabited : ∀ entry ∈ table.entries, entry.2 ≠ []

theorem wellFormed_empty : (empty : Dispatch α).WellFormed where
  distinct := List.nodup_nil
  inhabited := fun _ member => nomatch member

theorem keys_appendAction (kind : OperationKind) (action : α) (entries : List (OperationKind × List α)) :
    (appendAction kind action entries).map Prod.fst =
      if kind ∈ entries.map Prod.fst then entries.map Prod.fst else entries.map Prod.fst ++ [kind] := by
  induction entries with
  | nil => rfl
  | cons entry entries ih =>
      obtain ⟨key, actions⟩ := entry
      by_cases listed : key = kind
      · simp [appendAction, listed]
      · have later : kind ∈ key :: entries.map Prod.fst ↔ kind ∈ entries.map Prod.fst := by
          simp [Ne.symm listed]
        rw [appendAction, if_neg listed, List.map_cons, ih, List.map_cons]
        simp only [later]
        split
        · rfl
        · rfl

theorem inhabited_appendAction (kind : OperationKind) (action : α)
    (entries : List (OperationKind × List α)) (inhabited : ∀ entry ∈ entries, entry.2 ≠ []) :
    ∀ entry ∈ appendAction kind action entries, entry.2 ≠ [] := by
  induction entries with
  | nil => simp [appendAction]
  | cons first entries ih =>
      obtain ⟨firstInhabited, restInhabited⟩ := List.forall_mem_cons.mp inhabited
      rw [appendAction]
      split
      · exact List.forall_mem_cons.mpr ⟨by simp, restInhabited⟩
      · exact List.forall_mem_cons.mpr ⟨firstInhabited, ih restInhabited⟩

namespace WellFormed

variable {table : Dispatch α}

theorem appendAction (proper : table.WellFormed) (kind : OperationKind) (action : α) :
    WellFormed ⟨Dispatch.appendAction kind action table.entries⟩ where
  distinct := by
    have keys : (⟨Dispatch.appendAction kind action table.entries⟩ : Dispatch α).kinds =
        if kind ∈ table.kinds then table.kinds else table.kinds ++ [kind] :=
      keys_appendAction kind action table.entries
    rw [keys]
    split
    · exact proper.distinct
    · next absent =>
        rw [← List.concat_eq_append]
        exact proper.distinct.concat absent
  inhabited := inhabited_appendAction kind action table.entries proper.inhabited

theorem register (proper : table.WellFormed) (action : α) (kinds : List OperationKind) :
    (table.register action kinds).WellFormed := by
  obtain ⟨entries⟩ := table
  induction kinds generalizing entries with
  | nil => exact proper
  | cons kind kinds ih => exact ih _ (proper.appendAction kind action)

theorem registerEach (proper : table.WellFormed) (calls : List (α × List OperationKind)) :
    (table.registerEach calls).WellFormed := by
  induction calls generalizing table with
  | nil => exact proper
  | cons call calls ih => exact ih (proper.register call.1 call.2)

theorem mem_kinds_iff (proper : table.WellFormed) (kind : OperationKind) :
    kind ∈ table.kinds ↔ table.actionsFor kind ≠ [] := by
  cases found : table.entries.lookup kind with
  | none =>
      have absent : kind ∉ table.kinds := by
        intro listed
        obtain ⟨entry, member, rfl⟩ := List.mem_map.mp listed
        have other := List.lookup_eq_none_iff.mp found entry member
        simp at other
      simp [actionsFor, found, absent]
  | some actions =>
      obtain ⟨before, after, shape, _⟩ := List.lookup_eq_some_iff.mp found
      have member : (kind, actions) ∈ table.entries := by simp [shape]
      have listed : kind ∈ table.kinds := List.mem_map_of_mem member
      simpa [actionsFor, found, listed] using proper.inhabited _ member

theorem isEmpty_iff (proper : table.WellFormed) :
    table.isEmpty = true ↔ ∀ kind, table.actionsFor kind = [] := by
  constructor
  · exact table.actionsFor_of_isEmpty
  · intro silent
    have noKinds : table.kinds = [] := by
      apply List.eq_nil_iff_forall_not_mem.mpr
      intro kind listed
      exact (proper.mem_kinds_iff kind).mp listed (silent kind)
    exact List.isEmpty_iff.mpr (List.map_eq_nil_iff.mp noKinds)

end WellFormed

/-- What a table holds after any run of registrations. -/
theorem registerEach_holds_run (calls : List (α × List OperationKind)) :
    (∀ kind, (empty.registerEach calls).actionsFor kind =
      calls.flatMap fun call => List.replicate (call.2.count kind) call.1) ∧
    (empty.registerEach calls).kinds.Nodup ∧
    (∀ kind, kind ∈ (empty.registerEach calls).kinds ↔
      (empty.registerEach calls).actionsFor kind ≠ []) ∧
    ((empty.registerEach calls).isEmpty = true ↔
      ∀ kind, (empty.registerEach calls).actionsFor kind = []) := by
  have proper : (empty.registerEach calls).WellFormed := wellFormed_empty.registerEach calls
  refine ⟨?_, proper.distinct, proper.mem_kinds_iff, proper.isEmpty_iff⟩
  intro kind
  rw [actionsFor_registerEach]
  rfl

end ConventionLint.Dispatch
