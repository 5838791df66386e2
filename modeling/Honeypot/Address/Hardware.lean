import Honeypot.Fault
import Honeypot.Number.Reading

/-!
# Link-local addresses

An interface has an address of eight groups that is made from its hardware address: the octets
`ff fe` are put into the middle of the six octets, and the second lowest bit of the first octet is
flipped.
-/

namespace Honeypot.Address

/-- The group that two octets make, unless they are negative or too wide. -/
def octetPair (high low : Int) : Except Fault UInt16 :=
  if high < 0 ∨ low < 0 then .error .wideHardwareOctet
  else
    let n := high.toNat * 256 ||| low.toNat
    if n < 65536 then .ok (UInt16.ofNat n) else .error .wideHardwareOctet

def hardwareOctets (mac : String) : Except Fault (List Int) :=
  match (Text.fields ':' mac).mapM Number.readHex? with
  | some octets => .ok octets
  | none => .error .badHardwareOctet

/-- Flips the bit of an octet that tells whether an address is managed locally. -/
def flipLocalBit (octet : Int) : Int :=
  if octet < 0 then octet else (octet.toNat ^^^ 2 : Nat)

/-- The link-local address of an interface with a given hardware address. -/
def ofHardware (mac : String) : Except Fault V6 := do
  match ← hardwareOctets mac with
  | a :: b :: c :: d :: e :: f :: _ =>
    let g ← octetPair (flipLocalBit a) b
    let h ← octetPair c 0xFF
    let i ← octetPair 0xFE d
    let j ← octetPair e f
    .ok ⟨[0xFE80, 0, 0, 0, g, h, i, j], none, rfl⟩
  | _ => .error .shortHardwareAddress

/-- The link-local address in its written form. -/
def linkLocal (mac : String) : Except Fault String := (ofHardware mac).map V6.text

end Honeypot.Address
