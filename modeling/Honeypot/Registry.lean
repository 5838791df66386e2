import Honeypot.Assoc

/-!
# The registry

The registry holds the sessions that are being served, by their identifiers, and how many of them
come from each address. It admits a session while neither the number of all sessions nor the
number from its address has reached its limit.
-/

namespace Honeypot

inductive Holder where
  /-- A session, by its number. -/
  | session (number : Nat)
  /-- Somebody who is told when to go and who keeps the place until it is taken away. -/
  | observer
  deriving Repr, DecidableEq

/-- A place in the registry. -/
structure Place where
  ip : String
  holder : Holder
  deriving Repr, DecidableEq

/-- Why somebody is not admitted. -/
inductive Refusal where
  | capacity
  | peerLimit
  deriving Repr, DecidableEq

def Refusal.name : Refusal → String
  | .capacity => "capacity"
  | .peerLimit => "peer_limit"

/-- The places that are taken. -/
structure Registry where
  /-- The number of places. -/
  limit : Int
  /-- The number of places for one address; none if it is zero. -/
  peerLimit : Int
  /-- The places by identifiers, in the order in which they were first taken. -/
  places : List (String × Place)
  /-- The number of places by addresses. -/
  counts : List (String × Nat)
  deriving Repr

namespace Registry

def empty (limit peerLimit : Int) : Registry := ⟨limit, peerLimit, [], []⟩

/-- The number of places that an address has. -/
def count (r : Registry) (ip : String) : Nat := (r.counts.lookup ip).getD 0

/-- Gives a place to an identifier, unless a limit is reached. -/
def enter (r : Registry) (id : String) (place : Place) : Except Refusal Registry :=
  if r.limit ≤ r.places.length then .error .capacity
  else if r.peerLimit ≠ 0 ∧ r.peerLimit ≤ r.count place.ip then .error .peerLimit
  else
    .ok { r with
      places := Assoc.put id place r.places
      counts := Assoc.put place.ip (r.count place.ip + 1) r.counts }

/-- Takes the place of an identifier away, if it has one. -/
def leave? (r : Registry) (id : String) : Option Registry :=
  (r.places.lookup id).map fun place =>
    let left := r.count place.ip - 1
    { r with
      places := Assoc.erase id r.places
      counts := if left = 0 then Assoc.erase place.ip r.counts
        else Assoc.put place.ip left r.counts }

def leave (r : Registry) (id : String) : Registry := (r.leave? id).getD r

end Registry

end Honeypot
