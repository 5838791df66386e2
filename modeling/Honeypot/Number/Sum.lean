/-!
# Sums of natural numbers

The sum of a list, and what becomes of it when members are left out.
-/

namespace Honeypot.Number

def sum : List Nat → Nat
  | [] => 0
  | n :: rest => n + sum rest

@[simp] theorem sum_nil : sum [] = 0 := rfl

@[simp] theorem sum_cons (n : Nat) (rest : List Nat) : sum (n :: rest) = n + sum rest := rfl

theorem sum_map_filter_le {α : Type} (f : α → Nat) (keep : α → Bool) (values : List α) :
    sum ((values.filter keep).map f) ≤ sum (values.map f) := by
  induction values with
  | nil => exact Nat.le_refl _
  | cons v rest ih =>
    rw [List.filter_cons]
    split
    · exact Nat.add_le_add_left ih _
    · exact Nat.le_trans ih (Nat.le_add_left _ _)

end Honeypot.Number
