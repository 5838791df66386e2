import Honeypot.Text.Digit

/-!
# Hexadecimal digits

The digits of a number in base sixteen are read as the number (`exists_values_toDigits`).
-/

namespace Honeypot.Text

theorem hexValue?_digitChar : ∀ d < 16, hexValue? d.digitChar = some d := by decide

theorem exists_digit_of_mem {n : Nat} {c : Char} (h : c ∈ Nat.toDigits 16 n) :
    ∃ d < 16, c = d.digitChar := by
  induction n using Nat.strongRecOn with
  | ind n ih =>
    by_cases hsmall : n < 16
    · rw [Nat.toDigits_of_lt_base hsmall, List.mem_singleton] at h
      exact ⟨n, hsmall, h⟩
    · rw [Nat.toDigits_of_base_le (by decide) (by omega), List.mem_append] at h
      obtain h | h := h
      · exact ih (n / 16) (by omega) h
      · exact ⟨n % 16, by omega, List.mem_singleton.mp h⟩

/-- **The digits of a number** have values, and these make the number. -/
theorem exists_values_toDigits (n : Nat) : ∃ values, (Nat.toDigits 16 n).mapM hexValue? =
    some values ∧ values.foldl (fun n d => n * 16 + d) 0 = n := by
  induction n using Nat.strongRecOn with
  | ind n ih =>
    by_cases hsmall : n < 16
    · refine ⟨[n], ?_, by simp⟩
      rw [Nat.toDigits_of_lt_base hsmall, List.mapM_cons, hexValue?_digitChar n hsmall]
      rfl
    · obtain ⟨values, hvalues, hfold⟩ := ih (n / 16) (by omega)
      refine ⟨values ++ [n % 16], ?_, ?_⟩
      · rw [Nat.toDigits_of_base_le (by decide) (by omega), List.mapM_append, hvalues,
          List.mapM_cons, hexValue?_digitChar _ (by omega)]
        rfl
      · rw [List.foldl_append, hfold, List.foldl_cons, List.foldl_nil]
        omega

end Honeypot.Text
