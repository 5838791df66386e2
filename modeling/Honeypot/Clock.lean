/-!
# Clocks

What a number type has to offer to measure time in seconds. A running program measures with
double-precision numbers; with exact numbers the same definitions can be reasoned about without
rounding.
-/

namespace Honeypot

/-- A number type that measures time in seconds. -/
class Clock (τ : Type) extends Add τ, Sub τ, LE τ, LT τ where
  /-- A number of full seconds. -/
  span : Nat → τ
  /-- The nearest double-precision number. -/
  seconds : τ → Float
  decideLe : DecidableLE τ
  decideLt : DecidableLT τ

attribute [reducible, instance] Clock.decideLe Clock.decideLt

instance : Clock Float where
  span := Float.ofNat
  seconds := id
  decideLe := inferInstance
  decideLt := inferInstance

instance : Clock Int where
  span := Int.ofNat
  seconds := Float.ofInt
  decideLe := inferInstance
  decideLt := inferInstance

end Honeypot
