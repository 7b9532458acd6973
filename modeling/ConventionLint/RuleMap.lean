import ConventionLint.Diagnostic
import ConventionLint.RuleSeverity

namespace ConventionLint

def RuleSeverity.resolve (severity : RuleSeverity) (descriptor : Descriptor) : Option Severity :=
  match severity with
  | byDefault => if descriptor.enabledByDefault then some descriptor.defaultSeverity else none
  | error => some .error
  | warning => some .warning
  | info => some .info
  | hidden => some .hidden
  | off => none

/-- Severities by rule, in the order of the rule ids. No rule has two. -/
structure RuleMap where
  entries : List (String × RuleSeverity)
  ordered : (entries.map Prod.fst).Pairwise (· < ·)
  deriving DecidableEq, Repr

namespace RuleMap

def empty : RuleMap := ⟨[], .nil⟩

def get? (rules : RuleMap) (id : String) : Option RuleSeverity := rules.entries.lookup id

def insertEntry (id : String) (severity : RuleSeverity) :
    List (String × RuleSeverity) → List (String × RuleSeverity)
  | [] => [(id, severity)]
  | (key, value) :: entries =>
    if id < key then (id, severity) :: (key, value) :: entries
    else if id = key then (id, severity) :: entries
    else (key, value) :: insertEntry id severity entries

theorem mem_ids_insertEntry (id key : String) (severity : RuleSeverity)
    (entries : List (String × RuleSeverity)) :
    key ∈ (insertEntry id severity entries).map Prod.fst ↔ key = id ∨ key ∈ entries.map Prod.fst := by
  induction entries with
  | nil => simp [insertEntry]
  | cons entry entries ih =>
      obtain ⟨first, value⟩ := entry
      rw [insertEntry]
      split
      · simp
      · split
        · next found => simp [found]
        · rw [List.map_cons, List.mem_cons, ih, List.map_cons, List.mem_cons]
          exact or_left_comm

theorem ordered_insertEntry (id : String) (severity : RuleSeverity)
    (entries : List (String × RuleSeverity)) (ordered : (entries.map Prod.fst).Pairwise (· < ·)) :
    ((insertEntry id severity entries).map Prod.fst).Pairwise (· < ·) := by
  induction entries with
  | nil => exact List.pairwise_singleton _ id
  | cons entry entries ih =>
      obtain ⟨first, value⟩ := entry
      obtain ⟨least, rest⟩ := List.pairwise_cons.mp ordered
      rw [insertEntry]
      split
      · next before =>
          refine List.pairwise_cons.mpr ⟨?_, ordered⟩
          intro key member
          rcases List.mem_cons.mp member with rfl | later
          · exact before
          · exact String.lt_trans before (least key later)
      · next notBefore =>
          split
          · next found =>
              subst found
              exact ordered
          · next other =>
              have after : first < id :=
                Std.lt_of_le_of_ne (String.not_lt.mp notBefore) (Ne.symm other)
              refine List.pairwise_cons.mpr ⟨?_, ih rest⟩
              intro key member
              rcases (mem_ids_insertEntry id key severity entries).mp member with rfl | later
              · exact after
              · exact least key later

def insert (rules : RuleMap) (id : String) (severity : RuleSeverity) : RuleMap :=
  ⟨insertEntry id severity rules.entries, ordered_insertEntry id severity rules.entries rules.ordered⟩

def insertAll (rules : RuleMap) (entries : List (String × RuleSeverity)) : RuleMap :=
  entries.foldl (fun rules entry => rules.insert entry.1 entry.2) rules

def ids (rules : RuleMap) : List String := rules.entries.map Prod.fst

def configured (rules : RuleMap) (id : String) : RuleSeverity := (rules.get? id).getD .byDefault

def effective (rules : RuleMap) (descriptor : Descriptor) : Option Severity :=
  (rules.configured descriptor.id).resolve descriptor

end RuleMap

end ConventionLint
