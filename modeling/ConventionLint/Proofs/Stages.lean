import Mathlib.Data.List.Forall2

namespace ConventionLint

variable {ε α β : Type}

theorem map_eq_ok_iff (stage : Except ε α) (f : α → β) (result : β) :
    stage.map f = .ok result ↔ ∃ a, stage = .ok a ∧ f a = result := by
  cases stage with
  | error e => simp [Except.map]
  | ok a => simp [Except.map]

theorem map_eq_error_iff (stage : Except ε α) (f : α → β) (e : ε) :
    stage.map f = .error e ↔ stage = .error e := by
  cases stage with
  | error e => simp [Except.map]
  | ok a => simp [Except.map]

theorem bind_eq_ok_iff (stage : Except ε α) (next : α → Except ε β) (result : β) :
    stage >>= next = .ok result ↔ ∃ a, stage = .ok a ∧ next a = .ok result := by
  cases stage with
  | error e => simp [bind, Except.bind]
  | ok a => simp [bind, Except.bind]

theorem bind_eq_error_iff (stage : Except ε α) (next : α → Except ε β) (e : ε) :
    stage >>= next = .error e ↔ stage = .error e ∨ ∃ a, stage = .ok a ∧ next a = .error e := by
  cases stage with
  | error e => simp [bind, Except.bind]
  | ok a => simp [bind, Except.bind]

theorem mapM_eq_ok_iff (stage : α → Except ε β) (inputs : List α) (results : List β) :
    inputs.mapM stage = .ok results ↔
      List.Forall₂ (fun input result => stage input = .ok result) inputs results := by
  induction inputs generalizing results with
  | nil => simp [pure, Except.pure, eq_comm]
  | cons input inputs ih =>
      rw [List.mapM_cons, List.forall₂_cons_left_iff, bind_eq_ok_iff]
      simp only [bind_eq_ok_iff, ih, pure, Except.pure, Except.ok.injEq]
      constructor
      · rintro ⟨result, first, rest, others, rfl⟩
        exact ⟨result, rest, first, others, rfl⟩
      · rintro ⟨result, rest, first, others, rfl⟩
        exact ⟨result, first, rest, others, rfl⟩

theorem exists_mem_of_forall₂ {R : α → β → Prop} {inputs : List α} {results : List β}
    (paired : List.Forall₂ R inputs results) (input : α) (member : input ∈ inputs) :
    ∃ result ∈ results, R input result := by
  induction paired with
  | nil => cases member
  | @cons first result _ _ related _ ih =>
      rcases List.mem_cons.mp member with rfl | later
      · exact ⟨result, List.mem_cons_self, related⟩
      · obtain ⟨other, inside, related⟩ := ih later
        exact ⟨other, List.mem_cons_of_mem _ inside, related⟩

/-- A list of stages fails at the first that fails, and those before it succeed. -/
theorem mapM_eq_error_iff (stage : α → Except ε β) (inputs : List α) (e : ε) :
    inputs.mapM stage = .error e ↔ ∃ before input after, inputs = before ++ input :: after ∧
      (∀ earlier ∈ before, ∃ result, stage earlier = .ok result) ∧ stage input = .error e := by
  induction inputs with
  | nil => simp [pure, Except.pure]
  | cons first inputs ih =>
      rw [List.mapM_cons, bind_eq_error_iff]
      simp only [bind_eq_error_iff, ih, pure, Except.pure, reduceCtorEq, and_false, exists_false,
        or_false]
      constructor
      · rintro (failed | ⟨result, passed, before, input, after, rfl, passing, failed⟩)
        · exact ⟨[], first, inputs, rfl, by simp, failed⟩
        · refine ⟨first :: before, input, after, rfl, ?_, failed⟩
          intro earlier member
          rcases List.mem_cons.mp member with rfl | later
          · exact ⟨result, passed⟩
          · exact passing earlier later
      · rintro ⟨before, input, after, shape, passing, failed⟩
        cases before with
        | nil =>
            obtain ⟨rfl, rfl⟩ := List.cons.inj shape
            exact .inl failed
        | cons head before =>
            obtain ⟨rfl, rfl⟩ := List.cons.inj shape
            obtain ⟨result, passed⟩ := passing first List.mem_cons_self
            exact .inr ⟨result, passed, before, input, after, rfl,
              fun earlier member => passing earlier (List.mem_cons_of_mem first member), failed⟩

end ConventionLint
