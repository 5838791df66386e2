import Honeypot.Fault
import Honeypot.Random

/-!
# Computations that draw

`Draws` is a computation on the state of one generator that may end in a fault. The draws made
before a fault stay made.
-/

namespace Honeypot

/-- A computation on a generator that may end in a fault. -/
abbrev Draws := ExceptT Fault (StateM Random)

namespace Draws

def draw : Draws Nat := do
  let g ← get
  set g.next
  pure g.next.bits

/-- A number between two bounds, both included. -/
def between (low high : Int) : Draws Int := do
  pure (Random.between low high (← draw))

/-- A number in an interval of reals. -/
def uniform (low high : Float) : Draws Float := do
  pure (Random.uniform low high (← draw))

/-- A fraction in [0, 1). -/
def unit : Draws Float := do
  pure (Random.unit (← draw))

/-- A member of a non-empty list. -/
def pick {α : Type} (first : α) (rest : List α) : Draws α := do
  pure (Random.pick first rest (← draw))

/-- An address of four octets, none of which is at the end of its range. -/
def dotted (firstLow firstHigh : Int) : Draws String := do
  let a ← between firstLow firstHigh
  let b ← between 0 255
  let c ← between 0 255
  let d ← between 1 254
  pure (Text.join "." ([a, b, c, d].map Text.ofInt))

end Draws

end Honeypot
