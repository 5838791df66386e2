import Honeypot.Text.Basic

/-!
# Addresses of four octets

The dotted form is four decimal octets without leading zeros.
-/

namespace Honeypot.Address

/-- An address of four octets. -/
structure V4 where
  a : UInt8
  b : UInt8
  c : UInt8
  d : UInt8
  deriving Repr, DecidableEq, Inhabited

/-- Reads an octet: up to three decimal digits without a leading zero. -/
def octet? (cs : List Char) : Option UInt8 :=
  let n := cs.foldl (fun n c => n * 10 + (c.toNat - 48)) 0
  if cs.isEmpty || 3 < cs.length || !cs.all Char.isDigit then none
  else if 1 < cs.length && cs.head? == some '0' then none
  else if n < 256 then some (UInt8.ofNat n)
  else none

namespace V4

def parse? (cs : List Char) : Option V4 :=
  match cs.splitOn '.' with
  | [a, b, c, d] =>
    match octet? a, octet? b, octet? c, octet? d with
    | some a, some b, some c, some d => some ⟨a, b, c, d⟩
    | _, _, _, _ => none
  | _ => none

def text (x : V4) : String :=
  Text.ofNat x.a.toNat ++ "." ++ Text.ofNat x.b.toNat ++ "." ++ Text.ofNat x.c.toNat ++ "." ++
    Text.ofNat x.d.toNat

/-- The address as a number of 32 bits. -/
def value (x : V4) : Nat :=
  ((x.a.toNat * 256 + x.b.toNat) * 256 + x.c.toNat) * 256 + x.d.toNat

/-- Whether the address shares its first `bits` bits with another. -/
def isIn (x net : V4) (bits : Nat) : Bool :=
  x.value >>> (32 - bits) == net.value >>> (32 - bits)

def isLoopback (x : V4) : Bool := x.isIn ⟨127, 0, 0, 0⟩ 8

/-- Blocks that are not routed globally. -/
def privateBlocks : List (V4 × Nat) := [
  (⟨0, 0, 0, 0⟩, 8), (⟨10, 0, 0, 0⟩, 8), (⟨127, 0, 0, 0⟩, 8), (⟨169, 254, 0, 0⟩, 16),
  (⟨172, 16, 0, 0⟩, 12), (⟨192, 0, 0, 0⟩, 24), (⟨192, 0, 2, 0⟩, 24), (⟨192, 168, 0, 0⟩, 16),
  (⟨198, 18, 0, 0⟩, 15), (⟨198, 51, 100, 0⟩, 24), (⟨203, 0, 113, 0⟩, 24), (⟨240, 0, 0, 0⟩, 4)]

/-- Addresses inside the private blocks that are routed all the same. -/
def routedExceptions : List V4 := [⟨192, 0, 0, 9⟩, ⟨192, 0, 0, 10⟩]

/-- Whether an address is kept for use within a network. -/
def isPrivate (x : V4) : Bool :=
  privateBlocks.any (fun (net, bits) => x.isIn net bits) && !routedExceptions.contains x

/-- The block that providers share between their customers. -/
def isShared (x : V4) : Bool := x.isIn ⟨100, 64, 0, 0⟩ 10

end V4

end Honeypot.Address
