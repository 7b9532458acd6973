import ConventionLint.Proofs.Decimal.Natural
import ConventionLint.Report.Text

namespace ConventionLint.Report

def Tally.line (tally : Tally) : String :=
  "Found " ++ counted tally.errors "error" ++
    (if tally.others = 0 then "" else " and " ++ counted tally.others "other diagnostic") ++ "."

/-- The text ends with a blank line and the line for two counts. -/
def Summarizes (output : String) (tally : Tally) : Prop :=
  ∃ before, output = before ++ "\n" ++ tally.line ++ "\n"

theorem tally_total (diagnostics : List Diagnostic) :
    (Tally.ofList diagnostics).errors + (Tally.ofList diagnostics).others = diagnostics.length := by
  rw [List.length_eq_countP_add_countP fun d => decide (d.severity = .error)]
  simp [Tally.ofList]

theorem summary_eq (diagnostics : List Diagnostic) :
    summary diagnostics =
      if diagnostics.length = 0 then none else some (Tally.ofList diagnostics).line := by
  rw [summary]
  simp only [tally_total]
  rfl

theorem takeWhile_front {α : Type} (p : α → Bool) (front : List α) (stop : α) (rest : List α)
    (inside : ∀ a ∈ front, p a = true) (outside : p stop = false) :
    (front ++ stop :: rest).takeWhile p = front := by
  rw [List.takeWhile_append_of_pos inside, List.takeWhile_cons_of_neg (by simp [outside]),
    List.append_nil]

theorem counted_toList (n : Nat) (noun : String) :
    (counted n noun).toList =
      Decimal.ofNat n ++ ' ' :: (noun.toList ++ if n = 1 then [] else ['s']) := by
  unfold counted
  split
  · next single =>
      subst single
      have digit : Decimal.ofNat 1 = ['1'] := by rw [Decimal.ofNat]; rfl
      simp [digit]
  · simp [String.toList_append]

theorem eq_of_counted (n m : Nat) (noun : String) (rest rest' : List Char)
    (same : (counted n noun).toList ++ rest = (counted m noun).toList ++ rest') :
    n = m ∧ rest = rest' := by
  have equal : n = m := by
    rw [counted_toList, counted_toList, List.append_assoc, List.append_assoc] at same
    have digits := congrArg (List.takeWhile Char.isDigit) same
    rw [List.cons_append, List.cons_append,
      takeWhile_front _ _ ' ' _ (Decimal.isDigit_ofNat n) (by decide),
      takeWhile_front _ _ ' ' _ (Decimal.isDigit_ofNat m) (by decide)] at digits
    rw [← Decimal.value_ofNat n, digits, Decimal.value_ofNat]
  subst equal
  exact ⟨rfl, List.append_cancel_left same⟩

theorem line_injective (first second : Tally) (same : first.line = second.line) :
    first = second := by
  obtain ⟨errors, others⟩ := first
  obtain ⟨errors', others'⟩ := second
  have texts := congrArg String.toList same
  simp only [Tally.line, String.toList_append, List.append_assoc] at texts
  obtain ⟨rfl, tails⟩ := eq_of_counted errors errors' "error" _ _ (List.append_cancel_left texts)
  by_cases zero : others = 0
  · by_cases zero' : others' = 0
    · rw [zero, zero']
    · simp [zero, zero'] at tails
  · by_cases zero' : others' = 0
    · simp [zero, zero'] at tails
    · simp only [zero, zero', ↓reduceIte, String.toList_append, List.append_assoc] at tails
      obtain ⟨rfl, _⟩ := eq_of_counted others others' "other diagnostic" _ _
        (List.append_cancel_left tails)
      rfl

theorem not_mem_counted (c : Char) (digit : c.isDigit = false) (other : c ≠ ' ' ∧ c ≠ 's') (n : Nat)
    (noun : String) (absent : c ∉ noun.toList) : c ∉ (counted n noun).toList := by
  intro member
  rw [counted_toList] at member
  rcases List.mem_append.mp member with inDigits | later
  · cases digit.symm.trans (Decimal.isDigit_ofNat n c inDigits)
  · rcases List.mem_cons.mp later with blank | later
    · exact other.1 blank
    · rcases List.mem_append.mp later with inNoun | plural
      · exact absent inNoun
      · split at plural
        · cases plural
        · exact other.2 (List.mem_singleton.mp plural)

theorem not_mem_line (tally : Tally) (c : Char) (digit : c.isDigit = false)
    (absent : c ∉ "Found errors and other diagnostics.".toList) : c ∉ tally.line.toList := by
  have within : ∀ words : String, words.toList ⊆ "Found errors and other diagnostics.".toList →
      c ∉ words.toList := fun words subset member => absent (subset member)
  have other : c ≠ ' ' ∧ c ≠ 's' :=
    ⟨fun same => absent (by rw [same]; decide), fun same => absent (by rw [same]; decide)⟩
  have errors := not_mem_counted c digit other tally.errors "error" (within _ (by decide))
  have others := not_mem_counted c digit other tally.others "other diagnostic" (within _ (by decide))
  intro member
  simp only [Tally.line, String.toList_append, List.mem_append] at member
  rcases member with ((inFront | inErrors) | inOthers) | inStop
  · exact within "Found " (by decide) inFront
  · exact errors inErrors
  · split at inOthers
    · simp at inOthers
    · rw [String.toList_append, List.mem_append] at inOthers
      exact inOthers.elim (within " and " (by decide)) others
  · exact within "." (by decide) inStop

theorem eq_of_last {α : Type} [DecidableEq α] (separator : α) (before before' line line' : List α)
    (plain : separator ∉ line) (plain' : separator ∉ line')
    (same : before ++ separator :: line = before' ++ separator :: line') : line = line' := by
  have turned := congrArg (fun text => text.reverse.takeWhile fun a => !decide (a = separator)) same
  simp only [List.reverse_append, List.reverse_cons, List.append_assoc, List.singleton_append]
    at turned
  have other : ∀ text : List α, separator ∉ text →
      ∀ a ∈ text.reverse, (!decide (a = separator)) = true := by
    intro text absent a member
    simp only [Bool.not_eq_true', decide_eq_false_iff_not]
    rintro rfl
    exact absent (List.mem_reverse.mp member)
  rw [takeWhile_front _ _ separator _ (other line plain) (by simp),
    takeWhile_front _ _ separator _ (other line' plain') (by simp)] at turned
  exact List.reverse_inj.mp turned

/-- A text has at most one pair of counts. -/
theorem Summarizes.unique (output : String) (first second : Tally)
    (one : Summarizes output first) (two : Summarizes output second) : first = second := by
  obtain ⟨before, shape⟩ := one
  obtain ⟨before', shape'⟩ := two
  have texts := congrArg String.toList (shape.symm.trans shape')
  have newline : "\n".toList = ['\n'] := rfl
  simp only [String.toList_append, newline, List.append_assoc, List.singleton_append] at texts
  rw [← List.append_assoc, ← List.append_assoc] at texts
  have plain : ∀ tally : Tally, '\n' ∉ tally.line.toList := fun tally =>
    not_mem_line tally '\n' rfl (by decide)
  have lines := eq_of_last '\n' _ _ _ _ (plain first) (plain second) (List.append_cancel_right texts)
  exact line_injective first second (String.toList_injective lines)

end ConventionLint.Report
