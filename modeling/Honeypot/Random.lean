/-!
# The random generator

A linear congruential generator on 64 bits. A draw advances the state and yields its upper 31
bits; every kind of choice below takes exactly one draw.
-/

namespace Honeypot

/-- The state of a generator. -/
structure Random where
  state : UInt64
  deriving Repr, DecidableEq, Inhabited

namespace Random

/-- The generator that starts from a seed, taken modulo 2^64. -/
def ofSeed (seed : Int) : Random := ⟨UInt64.ofNat (seed % 18446744073709551616).toNat⟩

def next (g : Random) : Random := ⟨g.state * 6364136223846793005 + 1442695040888963407⟩

/-- The number that the draw leading to this state yields. -/
def bits (g : Random) : Nat := (g.state >>> 33).toNat

/-- One draw: the number below 2^31 and the generator after it. -/
def draw (g : Random) : Nat × Random := (g.next.bits, g.next)

/-- A fraction in [0, 1). -/
def unit (r : Nat) : Float := Float.ofNat r / 2147483648.0

/-- The number that a draw `r` picks between two bounds, both included. -/
def between (low high : Int) (r : Nat) : Int := low + (r : Int) % (high - low + 1)

/-- The number that a draw `r` picks in an interval of reals. -/
def uniform (low high : Float) (r : Nat) : Float := low + (high - low) * unit r

/-- The member of a non-empty list that a draw `r` picks. -/
def pick {α : Type} (first : α) (rest : List α) (r : Nat) : α :=
  ((first :: rest)[r % (rest.length + 1)]?).getD first

end Random

end Honeypot
