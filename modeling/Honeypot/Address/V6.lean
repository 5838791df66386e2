import Honeypot.Address.V4
import Honeypot.Text.Digit

/-!
# Addresses of eight groups

An address of 128 bits is eight groups of 16 bits, and may name the scope that it is valid in.
It is written with lower-case digits, the first of its longest runs of two or more zero groups
left out. A reader also takes upper-case digits, leading zeros within four digits, a shorter run
left out, and a last part in dotted form.
-/

namespace Honeypot.Address

/-- An address of eight groups. -/
structure V6 where
  groups : List UInt16
  scope : Option String
  eight : groups.length = 8
  deriving DecidableEq

/-- Reads a group: up to four hexadecimal digits. -/
def group? (cs : List Char) : Option UInt16 :=
  if cs.isEmpty || 4 < cs.length then none
  else (cs.mapM Text.hexValue?).map fun ds => UInt16.ofNat (ds.foldl (fun n d => n * 16 + d) 0)

namespace V6

/-- The parts between colons, with a last part in dotted form replaced by two groups. -/
def parts? (cs : List Char) : Option (List (List Char)) :=
  let parts := cs.splitOn ':'
  if parts.length < 3 then none
  else
    match parts.getLast? with
    | some last =>
      if last.contains '.' then
        (V4.parse? last).map fun x =>
          parts.dropLast ++ [Nat.toDigits 16 (x.a.toNat * 256 + x.b.toNat),
            Nat.toDigits 16 (x.c.toNat * 256 + x.d.toNat)]
      else some parts
    | none => none

/-- The positions of the empty parts that have neighbours on both sides. -/
def gaps (parts : List (List Char)) : List Nat :=
  (List.range parts.length).filter fun i =>
    0 < i && i + 1 < parts.length && (parts[i]?).any List.isEmpty

/-- The groups that the parts stand for; a gap stands for as many zeros as are missing. -/
def ofParts? (parts : List (List Char)) : Option (List UInt16) :=
  if 9 < parts.length then none
  else
    match gaps parts with
    | [] => if parts.length = 8 then parts.mapM group? else none
    | [gap] =>
      let left := parts.take gap
      let right := parts.drop (gap + 1)
      let left := if left.head? == some [] then (if gap = 1 then some [] else none) else some left
      let right :=
        if right.getLast? == some [] then (if right.length = 1 then some [] else none)
        else some right
      match left, right with
      | some left, some right =>
        if 8 ≤ left.length + right.length then none
        else
          match left.mapM group?, right.mapM group? with
          | some high, some low =>
            some (high ++ List.replicate (8 - high.length - low.length) 0 ++ low)
          | _, _ => none
      | _, _ => none
    | _ => none

/-- Splits off the name of the scope, which is not empty and holds no second mark. -/
def splitScope? (cs : List Char) : Option (List Char × Option String) :=
  match cs.splitOn '%' with
  | [address] => some (address, none)
  | [address, scope] => if scope.isEmpty then none else some (address, some (String.ofList scope))
  | _ => none

/-- An address of the given groups, if there are eight. -/
def ofGroups? (groups : List UInt16) (scope : Option String) : Option V6 :=
  if h : groups.length = 8 then some ⟨groups, scope, h⟩ else none

def parse? (cs : List Char) : Option V6 :=
  if cs.contains '/' then none
  else do
    let (address, scope) ← splitScope? cs
    let parts ← parts? address
    let groups ← ofParts? parts
    ofGroups? groups scope

/-- The number of zero groups at the start of a list. -/
def zeros (groups : List UInt16) : Nat := (groups.takeWhile (· == 0)).length

/-- The start and length of the first of the longest runs of zero groups, `pos` being the position
of the first group and `best` the best run before it. -/
def longestRun (pos : Nat) (best : Nat × Nat) : List UInt16 → Nat × Nat
  | [] => best
  | g :: rest =>
    let run := zeros (g :: rest)
    longestRun (pos + 1) (if best.2 < run then (pos, run) else best) rest

/-- A group in hexadecimal digits. -/
def groupText (g : UInt16) : String := Text.inBase 16 g.toNat

def groupsText (groups : List UInt16) : String := Text.join ":" (groups.map groupText)

/-- The shortest form of the groups. -/
def compressed (groups : List UInt16) : String :=
  let (start, length) := longestRun 0 (0, 0) groups
  if length < 2 then groupsText groups
  else groupsText (groups.take start) ++ "::" ++ groupsText (groups.drop (start + length))

def text (x : V6) : String :=
  compressed x.groups ++
    match x.scope with
    | some scope => "%" ++ scope
    | none => ""

/-- The address as a number of 128 bits. -/
def value (x : V6) : Nat := x.groups.foldl (fun n g => n * 65536 + g.toNat) 0

/-- The address with four octets that the last two groups hold, if the others are those of a
mapped address. -/
def mapped? (x : V6) : Option V4 :=
  match x.groups with
  | [0, 0, 0, 0, 0, 0xFFFF, g, h] =>
    some ⟨UInt8.ofNat (g.toNat / 256), UInt8.ofNat (g.toNat % 256), UInt8.ofNat (h.toNat / 256),
      UInt8.ofNat (h.toNat % 256)⟩
  | _ => none

/-- Whether the first `bits` bits are those of the given leading groups followed by zeros. -/
def isIn (x : V6) (lead : List Nat) (bits : Nat) : Bool :=
  let net := (lead ++ List.replicate (8 - lead.length) 0).foldl (fun n g => n * 65536 + g) 0
  x.value >>> (128 - bits) == net >>> (128 - bits)

/-- Blocks that are not routed globally. -/
def privateBlocks : List (List Nat × Nat) := [
  ([0, 0, 0, 0, 0, 0, 0, 1], 128), ([0], 128), ([0x64, 0xFF9B, 1], 48), ([0x100], 64),
  ([0x2001], 23), ([0x2001, 0xDB8], 32), ([0x2002], 16), ([0xFC00], 7), ([0xFE80], 10)]

/-- Blocks inside the private ones that are routed all the same. -/
def routedExceptions : List (List Nat × Nat) := [
  ([0x2001, 1, 0, 0, 0, 0, 0, 1], 128), ([0x2001, 1, 0, 0, 0, 0, 0, 2], 128),
  ([0x2001, 3], 32), ([0x2001, 4, 0x112], 48), ([0x2001, 0x20], 28), ([0x2001, 0x30], 28)]

/-- Whether an address is kept for use within a network. -/
def isPrivate (x : V6) : Bool :=
  match x.mapped? with
  | some y => y.isPrivate
  | none =>
    privateBlocks.any (fun (net, bits) => x.isIn net bits) &&
      !routedExceptions.any fun (net, bits) => x.isIn net bits

def isLoopback (x : V6) : Bool :=
  match x.mapped? with
  | some y => y.isLoopback
  | none => x.value == 1

end V6

end Honeypot.Address
