import Honeypot.Path

/-!
# Nodes of the tree

A node is a directory with the names of its entries, or a file. The text of a file is fixed or
made up on every reading.
-/

namespace Honeypot

/-- What a file that is made up on reading shows. -/
inductive Source where
  | passwd
  | shadow
  | group
  | hosts
  | resolver
  | shellStartup
  | mounts
  | processors
  | memory
  | kernelVersion
  | uptime
  | load
  | logins
  | systemLog
  deriving Repr, DecidableEq

/-- The text of a file. -/
inductive Content where
  | fixed (text : String)
  | madeUp (source : Source)
  deriving Repr, DecidableEq

/-- What a node is. -/
inductive Body where
  | directory (children : List String)
  | file (content : Content)
  deriving Repr, DecidableEq

/-- A directory or a file. -/
structure Node where
  path : Path
  body : Body
  mode : Int
  owner : String
  group : String
  /-- The moment of the last change, in seconds. -/
  changed : Float

namespace Node

def isDirectory (n : Node) : Bool :=
  match n.body with
  | .directory _ => true
  | .file _ => false

/-- The names of the entries that a directory was made with. -/
def children (n : Node) : List String :=
  match n.body with
  | .directory names => names
  | .file _ => []

def content? (n : Node) : Option Content :=
  match n.body with
  | .directory _ => none
  | .file content => some content

/-- The name of the node in its directory. -/
def name (n : Node) : String := n.path.name

/-- The text that stands in every program file. -/
def programStub : String := "\x7fELF\x01\x01\x01"

/-- Whether the node is one of the programs of the device. -/
def isProgram (n : Node) : Bool := n.content? == some (.fixed programStub)

end Node

/-! ## Modes -/

/-- The letters of the three permissions in the low three bits of a number. -/
def permissionLetters (bits : Nat) : List Char :=
  [if bits.testBit 2 then 'r' else '-', if bits.testBit 1 then 'w' else '-',
    if bits.testBit 0 then 'x' else '-']

/-- The last twelve bits of a mode, a negative one being an endless row of ones on the left. -/
def modeBits (mode : Int) : Nat := (mode % 4096).toNat

/-- The mode of a node in letters, as in `drwxr-xr-x`. The sticky bit shows in the last letter. -/
def modeLetters (isDirectory : Bool) (mode : Int) : String :=
  let bits := modeBits mode
  let last := permissionLetters bits
  let last :=
    if bits.testBit 9 then last.dropLast ++ [if bits.testBit 0 then 't' else 'T'] else last
  String.ofList
    ((if isDirectory then 'd' else '-') :: permissionLetters (bits >>> 6) ++
      permissionLetters (bits >>> 3) ++ last)

/-- The mode of a node in letters. -/
def Node.modeString (n : Node) : String := modeLetters n.isDirectory n.mode

/-- The last twelve bits of the mode of a node. -/
def Node.bits (n : Node) : Nat := modeBits n.mode

end Honeypot
