import ConventionLint.Config.Basic
import ConventionLint.Proofs.Stages
import Mathlib.Data.String.Basic

namespace ConventionLint

theorem lookup_reverse_of_nodup {β : Type} (entries : List (String × β))
    (distinct : (entries.map Prod.fst).Nodup) (key : String) :
    entries.reverse.lookup key = entries.lookup key := by
  induction entries with
  | nil => rfl
  | cons entry entries ih =>
      obtain ⟨first, value⟩ := entry
      obtain ⟨absent, rest⟩ := List.nodup_cons.mp distinct
      rw [List.reverse_cons, List.lookup_append, ih rest]
      by_cases same : key = first
      · subst same
        have missing : entries.lookup key = none := by
          apply List.lookup_eq_none_iff.mpr
          intro entry member
          rw [bne_iff_ne]
          intro same
          exact absent (List.mem_map.mpr ⟨entry, member, same.symm⟩)
        simp [missing]
      · simp [List.lookup_cons, beq_eq_false_iff_ne.mpr same]

namespace RuleMap

theorem lookup_insertEntry (id key : String) (severity : RuleSeverity)
    (entries : List (String × RuleSeverity)) :
    (insertEntry id severity entries).lookup key =
      if key = id then some severity else entries.lookup key := by
  induction entries with
  | nil =>
      by_cases same : key = id
      · simp [insertEntry, same]
      · simp [insertEntry, List.lookup_cons, beq_eq_false_iff_ne.mpr same, same]
  | cons entry entries ih =>
      obtain ⟨first, value⟩ := entry
      rw [insertEntry]
      split
      · by_cases same : key = id
        · simp [same]
        · rw [List.lookup_cons, beq_eq_false_iff_ne.mpr same, if_neg same]
      · split
        · next found =>
            subst found
            by_cases same : key = id
            · simp [same]
            · simp [List.lookup_cons, beq_eq_false_iff_ne.mpr same, same]
        · next other =>
            by_cases first : key = first
            · subst first
              simp [Ne.symm other]
            · rw [List.lookup_cons, List.lookup_cons, beq_eq_false_iff_ne.mpr first, ih]

theorem get_insert (rules : RuleMap) (id key : String) (severity : RuleSeverity) :
    (rules.insert id severity).get? key = if key = id then some severity else rules.get? key :=
  lookup_insertEntry id key severity rules.entries

theorem get_insertAll (rules : RuleMap) (entries : List (String × RuleSeverity)) (key : String) :
    (rules.insertAll entries).get? key = (entries.reverse.lookup key).or (rules.get? key) := by
  induction entries generalizing rules with
  | nil => rfl
  | cons entry entries ih =>
      obtain ⟨id, severity⟩ := entry
      have step : rules.insertAll ((id, severity) :: entries) =
          (rules.insert id severity).insertAll entries := rfl
      rw [step, ih, get_insert, List.reverse_cons, List.lookup_append, Option.or_assoc]
      congr 1
      by_cases same : key = id
      · simp [same]
      · simp [List.lookup_cons, beq_eq_false_iff_ne.mpr same, same]

theorem mem_ids_insertAll (rules : RuleMap) (entries : List (String × RuleSeverity)) (key : String) :
    key ∈ (rules.insertAll entries).ids ↔ key ∈ rules.ids ∨ key ∈ entries.map Prod.fst := by
  induction entries generalizing rules with
  | nil => simp [insertAll]
  | cons entry entries ih =>
      have step : rules.insertAll (entry :: entries) =
          (rules.insert entry.1 entry.2).insertAll entries := rfl
      have first : key ∈ (rules.insert entry.1 entry.2).ids ↔ key = entry.1 ∨ key ∈ rules.ids :=
        mem_ids_insertEntry entry.1 key entry.2 rules.entries
      rw [step, ih, first, List.map_cons, List.mem_cons, or_assoc]
      exact or_left_comm

theorem get_insertAll_entries (below above : RuleMap) (key : String) :
    (below.insertAll above.entries).get? key = (above.get? key).or (below.get? key) := by
  have distinct : (above.entries.map Prod.fst).Nodup :=
    above.ordered.imp fun before => ne_of_lt before
  rw [get_insertAll, lookup_reverse_of_nodup above.entries distinct]
  rfl

end RuleMap

namespace Config

def severity? (config : Config) (id : String) : Option RuleSeverity :=
  config.rules.bind fun rules => rules.get? id

theorem severity_onTopOf (config base : Config) (id : String) :
    (config.onTopOf base).severity? id = (config.severity? id).or (base.severity? id) := by
  unfold severity? onTopOf
  cases above : config.rules with
  | none =>
      cases below : base.rules with
      | none => rfl
      | some lower => rfl
  | some upper =>
      cases below : base.rules with
      | none => simp
      | some lower => exact lower.get_insertAll_entries upper id

end Config

end ConventionLint
