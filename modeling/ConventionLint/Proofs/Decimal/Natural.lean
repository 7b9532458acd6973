import ConventionLint.Decimal.Natural

namespace ConventionLint.Decimal

theorem isDigit_digit (d : Nat) (small : d < 10) : (digit d).isDigit = true := by
  have all : ∀ d < 10, (digit d).isDigit = true := by decide
  exact all d small

theorem digitValue_digit (d : Nat) (small : d < 10) : digitValue (digit d) = d := by
  have all : ∀ d < 10, digitValue (digit d) = d := by decide
  exact all d small

theorem digit_ne_zero (d : Nat) (small : d < 10) (positive : 0 < d) : digit d ≠ '0' := by
  have all : ∀ d < 10, 0 < d → digit d ≠ '0' := by decide
  exact all d small positive

theorem isDigit_ofNat (n : Nat) : ∀ c ∈ ofNat n, c.isDigit = true := by
  fun_induction ofNat n with
  | case1 n small =>
      intro c member
      rw [List.mem_singleton.mp member]
      exact isDigit_digit n small
  | case2 n large ih =>
      intro c member
      rcases List.mem_append.mp member with leading | last
      · exact ih c leading
      · rw [List.mem_singleton.mp last]
        exact isDigit_digit (n % 10) (Nat.mod_lt n (by decide))

theorem value_append (digits : List Char) (c : Char) :
    value (digits ++ [c]) = 10 * value digits + digitValue c := by
  rw [value, List.foldl_append]
  rfl

theorem value_ofNat (n : Nat) : value (ofNat n) = n := by
  fun_induction ofNat n with
  | case1 n small =>
      have single : value [digit n] = 10 * 0 + digitValue (digit n) := rfl
      rw [single, digitValue_digit n small]
      omega
  | case2 n large ih =>
      rw [value_append, ih, digitValue_digit (n % 10) (Nat.mod_lt n (by decide))]
      omega

theorem ofNat_leading (n : Nat) (positive : 0 < n) :
    ∃ c cs, ofNat n = c :: cs ∧ c ≠ '0' := by
  fun_induction ofNat n with
  | case1 n small => exact ⟨digit n, [], rfl, digit_ne_zero n small positive⟩
  | case2 n large ih =>
      obtain ⟨c, cs, digits, leading⟩ := ih (by omega)
      exact ⟨c, cs ++ [digit (n % 10)], by rw [digits, List.cons_append], leading⟩

theorem ofNat_eq_zero_or_leading (n : Nat) :
    ofNat n = ['0'] ∨ ∃ c cs, ofNat n = c :: cs ∧ c ≠ '0' := by
  rcases Nat.eq_zero_or_pos n with rfl | positive
  · left
    rw [ofNat]
    rfl
  · right
    exact ofNat_leading n positive

end ConventionLint.Decimal
