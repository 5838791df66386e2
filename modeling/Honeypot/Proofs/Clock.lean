import Mathlib.Data.Rat.Cast.Order
import Mathlib.Data.Real.Basic
import Honeypot.Clock

/-!
# Laws of clocks

A clock is exact if its times are numbers with which it calculates without rounding. Full seconds
and fractions are such times; double-precision numbers are not. Much holds already of clocks whose
calculations keep the order of times, which rounding to the nearest number does.
-/

namespace Honeypot

/-- A clock that calculates without rounding. -/
class ExactClock (τ : Type) [Clock τ] where
  /-- The number of seconds that a time stands for. -/
  value : τ → ℝ
  value_add : ∀ s t, value (s + t) = value s + value t
  value_sub : ∀ s t, value (s - t) = value s - value t
  value_span : ∀ n : Nat, value (Clock.span n) = n
  le_iff : ∀ s t : τ, s ≤ t ↔ value s ≤ value t

instance : ExactClock Int where
  value := Int.cast
  value_add := Int.cast_add
  value_sub := Int.cast_sub
  value_span := Int.cast_natCast
  le_iff _ _ := Int.cast_le.symm

instance : Clock ℚ where
  span n := n
  seconds q := Float.ofInt q.num / Float.ofNat q.den
  decideLe := inferInstance
  decideLt := inferInstance

instance : ExactClock ℚ where
  value := Rat.cast
  value_add := Rat.cast_add
  value_sub := Rat.cast_sub
  value_span := Rat.cast_natCast
  le_iff _ _ := Rat.cast_le.symm

/-! ## Clocks that keep the order -/

/-- A clock that orders its times and calculates with them in keeping with the order. -/
class OrderedClock (τ : Type) [Clock τ] : Prop where
  le_refl : ∀ t : τ, t ≤ t
  le_trans : ∀ {r s t : τ}, r ≤ s → s ≤ t → r ≤ t
  lt_iff_not_le : ∀ {s t : τ}, s < t ↔ ¬t ≤ s
  le_add : ∀ {t : τ} (s : τ), Clock.span 0 ≤ t → s ≤ s + t
  sub_le_sub_right : ∀ {s t : τ}, s ≤ t → ∀ r, s - r ≤ t - r
  sub_le_sub_left : ∀ {s t : τ}, s ≤ t → ∀ r, r - t ≤ r - s

instance : OrderedClock Int where
  le_refl := Int.le_refl
  le_trans := Int.le_trans
  lt_iff_not_le := Int.not_le.symm
  le_add _ := Int.le_add_of_nonneg_right
  sub_le_sub_right := Int.sub_le_sub_right
  sub_le_sub_left := Int.sub_le_sub_left

instance : OrderedClock ℚ where
  le_refl _ := le_rfl
  le_trans := le_trans
  lt_iff_not_le := not_le.symm
  le_add _ h := le_add_of_nonneg_right (Nat.cast_zero.symm.le.trans h)
  sub_le_sub_right h r := sub_le_sub_right h r
  sub_le_sub_left h r := sub_le_sub_left h r

end Honeypot
