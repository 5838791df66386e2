import Honeypot.Shell.Context
import Honeypot.Shell.Quantity

/-!
# What the system is

The commands that tell about the kernel, the clock and the processor.
-/

namespace Honeypot.Shell

open Text (join ofInt padLeft padRight)

/-! ## The kernel -/

/-- The letters that select parts of the identification of the kernel, in the order of the
parts. -/
def kernelLetters : List Char := ['s', 'n', 'r', 'v', 'm', 'o']

/-- Prints the identification of the kernel or parts of it. -/
def uname (c : Context) (inv : Invocation) : Except Fault String :=
  let p := c.device
  let letters := inv.letters.toList
  if inv.hasFlag "--all" then .ok (p.kernel ++ "\n")
  else
    match letters.find? fun l => l != 'a' && !kernelLetters.contains l with
    | some l =>
      .ok ("uname: invalid option -- '" ++ String.singleton l ++
        "'\nTry 'uname --help' for more information.\n")
    | none =>
      if letters.contains 'a' then .ok (p.kernel ++ "\n")
      else
        match p.kernelRelease? with
        | none => .error .shortKernel
        | some release =>
          let parts :=
            [('s', "Linux"), ('n', p.hostname), ('r', release), ('v', p.kernelVersion),
              ('m', p.architecture), ('o', "GNU/Linux")]
          let chosen := (parts.filter fun (l, _) => letters.contains l).map (·.2)
          .ok (join " " (if chosen.isEmpty then ["Linux"] else chosen) ++ "\n")

/-- Prints the name or an address of the device. -/
def hostname (c : Context) (inv : Invocation) : String :=
  if inv.hasFlag "-I" then c.device.ipAddress ++ " \n"
  else if inv.hasFlag "-i" then "127.0.1.1\n"
  else c.device.hostname ++ "\n"

/-! ## The clock -/

/-- Draws the minutes that the device has been up. -/
def drawUptime : Draws Int := Draws.between 90 10080

/-- Draws the load of the device over three spans of time. -/
def drawLoad : Draws String := do
  let one ← Draws.uniform 0.0 0.5
  let five ← Draws.uniform 0.0 0.3
  let fifteen ← Draws.uniform 0.0 0.2
  pure (join ", " ([one, five, fifteen].map (Number.fixed 2)))

/-- A number of things, with an `s` unless it is one. -/
def counted (n : Int) (what : String) : String :=
  ofInt n ++ " " ++ what ++ (if n = 1 then "" else "s")

/-- The time that the device has been up, in words. -/
def uptimeWords (minutes : Int) : String :=
  let days := Int.fdiv minutes 1440
  let hours := Int.fdiv (Int.fmod minutes 1440) 60
  let parts :=
    (if days = 0 then [] else [counted days "day"]) ++
      (if hours = 0 then [] else [counted hours "hour"]) ++
      [counted (Int.fmod (Int.fmod minutes 1440) 60) "minute"]
  "up " ++ join ", " parts ++ "\n"

/-- The line that tells the time, how long the device has been up and its load. -/
def loadLine (now : Calendar.Moment) (minutes : Int) (load : String) : String :=
  now.clock ++ " " ++ formatUp minutes ++ ",  1 user,  load average: " ++ load

/-- Prints how long the device has been up. -/
def uptime (c : Context) (inv : Invocation) : Draws String := do
  let minutes ← drawUptime
  if inv.hasFlag "-p" then pure (uptimeWords minutes)
  else if inv.hasFlag "-s" then
    let since ← Fault.ofDate ((← c.instant).reachMinutes (-minutes))
    pure (since.moment.dateClock ++ "\n")
  else
    let load ← drawLoad
    pure (" " ++ loadLine (← c.moment) minutes load ++ "\n")

/-- Prints the date, also of a year that has none otherwise. -/
def date (c : Context) : Except Fault String := do
  let m := (← Fault.ofDate (Calendar.counted .ofFullSeconds c.now)).moment
  pure (m.weekStamp ++ " UTC " ++ ofInt m.year ++ "\n")

/-- Prints who is logged in. -/
def w (c : Context) : Draws String := do
  let minutes ← drawUptime
  let load ← drawLoad
  let now ← c.moment
  pure (Text.block [
    " " ++ loadLine now minutes load,
    "USER     TTY      FROM             LOGIN@   IDLE   JCPU   PCPU WHAT",
    padRight 8 c.user ++ " pts/0    " ++ padRight 16 c.peerIp ++ " " ++ now.shortClock ++
      "    0.00s  0.02s  0.00s w"])

/-! ## The processor -/

def nproc (c : Context) : String := ofInt c.device.cpuCores ++ "\n"

/-- The facts about the processor of a device with a PCI bus. -/
def pciProcessor (p : Persona) : List (String × String) :=
  let cores := p.cpuCores
  let range := "0-" ++ ofInt (cores - 1)
  let firstLevel := ofInt (32 * cores) ++ " KiB"
  [("Architecture", p.architecture), ("CPU op-mode(s)", "32-bit, 64-bit"),
    ("Byte Order", "Little Endian"), ("Address sizes", "39 bits physical, 48 bits virtual"),
    ("CPU(s)", ofInt cores), ("On-line CPU(s) list", range), ("Thread(s) per core", "1"),
    ("Core(s) per socket", ofInt cores), ("Socket(s)", "1"), ("NUMA node(s)", "1"),
    ("Vendor ID", "GenuineIntel"), ("CPU family", "6"), ("Model", "158"),
    ("Model name", p.cpuModel), ("Stepping", "10"), ("CPU MHz", "3000.000"),
    ("CPU max MHz", "4100.0000"), ("CPU min MHz", "800.0000"), ("BogoMIPS", "6000.00"),
    ("Virtualization", "VT-x"), ("L1d cache", firstLevel), ("L1i cache", firstLevel),
    ("L2 cache",
      if 4 ≤ cores then ofInt (Int.fdiv (256 * cores) 1024) ++ " MiB"
      else ofInt (256 * cores) ++ " KiB"),
    ("L3 cache", "9 MiB"), ("NUMA node0 CPU(s)", range)]

/-- The facts about the processor of a MIPS device. -/
def mipsProcessor (p : Persona) : List (String × String) :=
  let cores := p.cpuCores
  [("Architecture", p.architecture), ("Byte Order", "Little Endian"), ("CPU(s)", ofInt cores),
    ("On-line CPU(s) list", "0-" ++ ofInt (cores - 1)), ("Thread(s) per core", "2"),
    ("Core(s) per socket", ofInt (max 1 (Int.fdiv cores 2))), ("Socket(s)", "1"),
    ("Model name", p.cpuModel), ("BogoMIPS", "586.13")]

/-- The facts about the processor of an ARM device. -/
def armProcessor (p : Persona) : List (String × String) :=
  let cores := p.cpuCores
  [("Architecture", p.architecture), ("Byte Order", "Little Endian"), ("CPU(s)", ofInt cores),
    ("On-line CPU(s) list", "0-" ++ ofInt (cores - 1)), ("Thread(s) per core", "1"),
    ("Core(s) per socket", ofInt cores), ("Socket(s)", "1"), ("Vendor ID", "ARM"),
    ("Model", "4"), ("Model name", "Cortex-A53"), ("Stepping", "r0p4"),
    ("CPU max MHz", "1200.0000"), ("CPU min MHz", "600.0000"), ("BogoMIPS", "38.40"),
    ("Flags",
      "half thumb fastmult vfp edsp neon vfpv3 tls vfpv4 idiva idivt vfpd32 lpae evtstrm crc32")]

def lscpu (c : Context) : String :=
  let p := c.device
  let facts :=
    if p.hasPciBus then pciProcessor p else if p.isMips then mipsProcessor p else armProcessor p
  Text.block (facts.map fun (name, value) => padRight 24 (name ++ ":") ++ value)

end Honeypot.Shell
