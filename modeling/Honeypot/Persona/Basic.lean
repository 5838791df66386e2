import Honeypot.Text.Blank

/-!
# Personas

A persona is the identity of the device that the shell pretends to be. Every command and every
generated file takes its facts from it.
-/

namespace Honeypot

/-- The identity of a device. -/
structure Persona where
  name : String
  hostname : String
  defaultUser : String
  /-- The user who has a directory below `/home`. -/
  homeUser : String
  architecture : String
  /-- The full identification of the kernel. -/
  kernel : String
  ipAddress : String
  macAddress : String
  osName : String
  /-- The text of the release file. -/
  osRelease : String
  cpuModel : String
  cpuCores : Int
  hardware : String
  model : String
  vendor : String
  memTotalKb : Int
  swapTotalKb : Int
  diskRootKb : Int
  rootDevice : String
  bootDevice? : Option String
  biosVendor? : Option String
  pciDevices : List String
  deriving Repr, DecidableEq, Inhabited

namespace Persona

/-- The release of the kernel: the third word of its identification. -/
def kernelRelease? (p : Persona) : Option String := (Text.words p.kernel)[2]?

/-- Words without those at the end that equal a given one. -/
def dropTrailing (word : String) (words : List String) : List String :=
  (words.reverse.dropWhile (· == word)).reverse

/-- The version of the kernel: the words after the release, without the system's name and the
architecture at the end. -/
def kernelVersion (p : Persona) : String :=
  let rest := (Text.words p.kernel).drop 3
  let rest := if rest.getLast? = some "GNU/Linux" then rest.dropLast else rest
  Text.join " " (dropTrailing p.architecture rest)

/-- Whether the device has a bus whose cards can be listed. -/
def hasPciBus (p : Persona) : Bool := p.architecture == "x86_64" || p.architecture == "i686"

/-- Whether the device has a processor of the MIPS family. -/
def isMips (p : Persona) : Bool := p.architecture == "mips"

/-- Whether the device has a processor of the ARM family. -/
def isArm (p : Persona) : Bool := Text.startsWith p.architecture "arm"

/-- The device that holds the boot files, if there is one. -/
def bootDevice (p : Persona) : Option String := p.bootDevice?.filter fun s => !s.isEmpty

/-- Who made the firmware; the vendor of the device unless another is named. -/
def firmwareVendor (p : Persona) : String :=
  (p.biosVendor?.filter fun s => !s.isEmpty).getD p.vendor

end Persona

end Honeypot
