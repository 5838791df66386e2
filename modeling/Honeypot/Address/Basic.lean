import Honeypot.Address.V6

/-!
# Addresses

An address of either length, the two questions that are asked of a peer's address, and the
network of 24 leading bits that an address lies in.
-/

namespace Honeypot

/-- An address of four octets or of eight groups. -/
inductive Address where
  | v4 (x : Address.V4)
  | v6 (x : Address.V6)
  deriving DecidableEq

namespace Address

/-- Reads an address of either length. -/
def parse? (s : String) : Option Address :=
  match V4.parse? s.toList with
  | some x => some (.v4 x)
  | none => (V6.parse? s.toList).map .v6

def text : Address → String
  | .v4 x => x.text
  | .v6 x => x.text

def isGlobal : Address → Bool
  | .v4 x => !x.isPrivate && !x.isShared
  | .v6 x => !x.isPrivate

/-- Whether the address is that of the host itself. -/
def isLoopback : Address → Bool
  | .v4 x => x.isLoopback
  | .v6 x => x.isLoopback

/-- Whether a text is the address of the host itself. -/
def isLoopbackText (s : String) : Bool := (parse? s).any isLoopback

/-- Whether a text is an address that is routed globally. -/
def isPublicText (s : String) : Bool := (parse? s).any isGlobal

/-! ## The network of an address -/

/-- The lowest address with the same 24 leading bits. It keeps its scope only if it is the
address itself. -/
def network : Address → Address
  | .v4 x => .v4 ⟨x.a, x.b, x.c, 0⟩
  | .v6 x =>
    let g := (x.groups[0]?).getD 0
    let h := (x.groups[1]?).getD 0
    let low : V6 := ⟨[g, h &&& 0xFF00, 0, 0, 0, 0, 0, 0], none, rfl⟩
    .v6 (if x.groups = low.groups then x else low)

/-- The address after the lowest one of the network. -/
def firstHost : Address → Address
  | .v4 x => .v4 ⟨x.a, x.b, x.c, 1⟩
  | .v6 x =>
    let g := (x.groups[0]?).getD 0
    let h := (x.groups[1]?).getD 0
    .v6 ⟨[g, h &&& 0xFF00, 0, 0, 0, 0, 0, 1], none, rfl⟩

/-- The highest address with the same 24 leading bits. -/
def broadcast : Address → Address
  | .v4 x => .v4 ⟨x.a, x.b, x.c, 255⟩
  | .v6 x =>
    let g := (x.groups[0]?).getD 0
    let h := (x.groups[1]?).getD 0
    .v6 ⟨[g, h ||| 0xFF, 0xFFFF, 0xFFFF, 0xFFFF, 0xFFFF, 0xFFFF, 0xFFFF], none, rfl⟩

def mask24 : Address → Address
  | .v4 _ => .v4 ⟨255, 255, 255, 0⟩
  | .v6 _ => .v6 ⟨[0xFFFF, 0xFF00, 0, 0, 0, 0, 0, 0], none, rfl⟩

def networkText (x : Address) : String := x.network.text ++ "/24"

end Address

end Honeypot
