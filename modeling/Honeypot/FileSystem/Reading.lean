import Honeypot.FileSystem.ConfigText
import Honeypot.FileSystem.Hardware
import Honeypot.FileSystem.Logs
import Honeypot.FileSystem.Node

/-!
# Reading files

The text of a file. A made-up file is made anew on every reading, from the device, the clock and
the generator of the file system.
-/

namespace Honeypot

def Persona.address (p : Persona) : Except Fault Address :=
  match Address.parse? p.ipAddress with
  | some x => .ok x
  | none => .error .badDeviceAddress

/-- The address of the router in the device's network. -/
def Persona.gateway (p : Persona) : Except Fault String := p.address.map (·.firstHost.text)

namespace Source

/-- The load of the device, drawn by a generator that changes with the minute. -/
def loadText (now : Float) : String :=
  let minute := (Number.floorDiv? now 60).getD 0
  let drawn : Draws String := do
    let one ← Draws.uniform 0.0 0.5
    let five ← Draws.uniform 0.0 0.3
    let fifteen ← Draws.uniform 0.0 0.2
    let threads ← Draws.between 90 140
    let last ← Draws.between 1800 2400
    pure (Number.fixed 2 one ++ " " ++ Number.fixed 2 five ++ " " ++ Number.fixed 2 fifteen ++
      " 1/" ++ Text.ofInt threads ++ " " ++ Text.ofInt last ++ "\n")
  match (drawn.run (Random.ofSeed minute)).1 with
  | .ok text => text
  | .error _ => ""

/-- The text of a made-up file. -/
def read (p : Persona) (now : Float) : Source → Draws String
  | .passwd => pure (ConfigText.passwd p)
  | .shadow => pure (ConfigText.shadow p)
  | .group => pure (ConfigText.group p)
  | .hosts => pure (ConfigText.hosts p)
  | .resolver => do
    let router ← p.gateway
    pure ("nameserver " ++ router ++ "\nnameserver 8.8.8.8\n")
  | .shellStartup => pure (ConfigText.shellStartup p)
  | .mounts => pure (ConfigText.mounts p)
  | .processors => pure (Hardware.processors p)
  | .memory => do
    let table ← Hardware.memory p
    pure table
  | .kernelVersion => do
    let line ← Hardware.kernelLine p
    pure (line ++ "\n")
  | .uptime => pure (Hardware.uptime now)
  | .load => pure (loadText now)
  | .logins => Logs.logins p now
  | .systemLog => Logs.system p now

end Source

def Content.read (p : Persona) (now : Float) : Content → Draws String
  | .fixed text => pure text
  | .madeUp source => source.read p now

/-- The text of a node; a directory has none. -/
def Node.read (p : Persona) (now : Float) (n : Node) : Draws String :=
  match n.content? with
  | some content => content.read p now
  | none => pure ""

/-- The number of bytes of a node; a directory takes a block of its own. -/
def Node.size (p : Persona) (now : Float) (n : Node) : Draws Nat :=
  match n.content? with
  | some content => do
    let text ← content.read p now
    pure text.utf8ByteSize
  | none => pure 4096

end Honeypot
