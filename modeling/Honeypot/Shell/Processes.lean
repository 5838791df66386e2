import Honeypot.Shell.System

/-!
# Processes, memory and disks

The tables of what the device is doing. The processes are fixed except for the two of the session;
their sizes and loads are drawn, and so is the use of the memory and of the disks.
-/

namespace Honeypot.Shell

open Number (fixed truncate)
open Text (join ofInt padLeft padRight)

/-! ## Processes -/

/-- A row of the table of processes. -/
structure Process where
  user : String
  number : Int
  terminal : String
  command : String
  deriving Repr, DecidableEq

/-- Whether a process is a thread of the kernel, which has no memory of its own. -/
def Process.isKernelThread (p : Process) : Bool := Text.startsWith p.command "["

/-- The processes of every device. -/
def firstProcesses (p : Persona) : List Process := [
  ⟨"root", 1, "?", if p.isMips then "/sbin/init" else "/lib/systemd/systemd --system"⟩,
  ⟨"root", 2, "?", "[kthreadd]"⟩,
  ⟨"root", 3, "?", "[rcu_gp]"⟩,
  ⟨"root", 9, "?", "[ksoftirqd/0]"⟩,
  ⟨"root", 10, "?", "[rcu_sched]"⟩]

/-- The processes of devices that are not of the MIPS family. -/
def serviceProcesses : List Process := [
  ⟨"root", 241, "?", "/lib/systemd/systemd-journald"⟩,
  ⟨"root", 268, "?", "/lib/systemd/systemd-udevd"⟩,
  ⟨"message+", 371, "?", "/usr/bin/dbus-daemon --system"⟩,
  ⟨"root", 389, "?", "/usr/sbin/rsyslogd -n -iNONE"⟩,
  ⟨"root", 396, "?", "/usr/sbin/cron -f"⟩]

/-- The table of processes around a shell with a given number. -/
def processTable (c : Context) (shell : Int) : List Process :=
  firstProcesses c.device ++ (if c.device.isMips then [] else serviceProcesses) ++ [
    ⟨"root", 412, "?", "/usr/sbin/sshd -D"⟩,
    ⟨"root", shell - 7, "?", "sshd: " ++ c.user ++ "@pts/0"⟩,
    ⟨c.user, shell, "pts/0", "-bash"⟩]

/-- Draws the size of a process and the part of it that is in memory. -/
def drawMemory (p : Process) : Draws (Int × Int) := do
  if p.isKernelThread then pure (0, 0)
  else
    let size ← Draws.between 2000 170000
    pure (size, Int.fdiv size (← Draws.between 3 12))

/-- The flags and arguments of `ps` that ask for the processes of all users. -/
def allProcessOptions : List String := ["aux", "axu", "-aux", "-ef", "ax", "-e", "-A"]

/-- The row of a process in the long table; `own` is the number of the command itself. -/
def processRow (c : Context) (own : Int) (p : Process) : Draws String := do
  let (size, resident) ← drawMemory p
  let state :=
    if p.number = own then "R+"
    else if p.terminal = "pts/0" ∨ p.number = 1 then "Ss"
    else "S"
  let started ←
    if p.terminal = "pts/0" then pure "10:15"
    else do
      let m ← c.moment
      pure (m.monthName ++ Calendar.twoDigits m.day)
  let load ← Draws.uniform 0.0 0.4
  let share ← Draws.uniform 0.0 1.2
  pure (join " " [padRight 8 p.user, padLeft 7 (ofInt p.number), padLeft 4 (fixed 1 load),
    padLeft 4 (fixed 1 share), padLeft 6 (ofInt size), padLeft 5 (ofInt resident),
    padRight 8 p.terminal, padRight 4 state, padLeft 5 started, "  0:00", p.command])

/-- Prints the table of processes. -/
def ps (c : Context) (inv : Invocation) : Draws String := do
  let shell ← processOf c.sessionId
  let own := shell + 53
  if inv.tokens.any allProcessOptions.contains then
    let self : Process := ⟨c.user, own, "pts/0", "ps " ++ join " " inv.tokens⟩
    let rows ← (processTable c shell ++ [self]).mapM (processRow c own)
    pure (Text.block
      ("USER         PID %CPU %MEM    VSZ   RSS TTY      STAT START   TIME COMMAND" :: rows))
  else
    pure (Text.block [
      "    PID TTY          TIME CMD",
      padLeft 7 (ofInt shell) ++ " pts/0    00:00:00 bash",
      padLeft 7 (ofInt own) ++ " pts/0    00:00:00 ps"])

/-! ## Memory -/

/-- How the memory is used, in kilobytes. -/
structure MemoryUse where
  total : Int
  used : Int
  free : Int
  shared : Int
  cache : Int
  available : Int
  deriving Repr, DecidableEq

def drawMemoryUse (c : Context) : Draws MemoryUse := do
  let total := c.device.memTotalKb
  let used ← Hardware.share total (← Draws.uniform 0.12 0.30)
  let cache ← Hardware.share total (← Draws.uniform 0.15 0.30)
  let shared ← Hardware.share total (← Draws.uniform 0.005 0.02)
  let free := total - used - cache
  pure ⟨total, used, free, shared, cache, free + (← Hardware.share cache 0.8)⟩

/-- How a table of memory writes numbers of kilobytes. -/
def memoryFormat (inv : Invocation) (kb : Int) : Except Fault String :=
  if inv.hasLetter 'h' then humanFree kb
  else if inv.hasLetter 'm' then .ok (ofInt (Int.fdiv kb 1024))
  else if inv.hasLetter 'g' then .ok (ofInt (Int.fdiv kb 1048576))
  else .ok (ofInt kb)

def memoryLine (inv : Invocation) (label : String) (first : Int) (more : List Int) :
    Except Fault String := do
  let first ← memoryFormat inv first
  let columns ← more.mapM fun kb => do pure (padLeft 12 (← memoryFormat inv kb))
  pure (label ++ padLeft (20 - label.length) first ++ String.join columns)

/-- Prints how the memory is used. -/
def free (c : Context) (inv : Invocation) : Draws String := do
  let use ← drawMemoryUse c
  let swap := c.device.swapTotalKb
  let memory ← memoryLine inv "Mem:" use.total
    [use.used, use.free, use.shared, use.cache, use.available]
  let swapped ← memoryLine inv "Swap:" swap [0, swap]
  pure (Text.block [
    "               total        used        free      shared  buff/cache   available",
    memory, swapped])

/-! ## The summary -/

def megabytes (kb : Int) : Except Fault String := do pure (padLeft 8 (fixed 1 (← perKibi kb)))

/-- The short name of the program of a process. -/
def shortName (command : String) : String :=
  Text.trim (fun c => c == '[' || c == ']' || c == '-')
    (Text.afterLast '/' ((Text.words command).headD ""))

/-- The row of a process in the summary. -/
def summaryRow (p : Process) : Draws String := do
  let (size, resident) ← drawMemory p
  let load ← Draws.uniform 0.0 0.7
  let share ← Draws.uniform 0.0 1.2
  let seconds ← Draws.between 0 9
  let hundredths ← Draws.between 10 99
  pure (join " " [padLeft 7 (ofInt p.number), padRight 9 p.user, "20   0",
    padLeft 7 (ofInt size), padLeft 7 (ofInt resident), padLeft 6 (ofInt (Int.fdiv resident 2)),
    "S", padLeft 5 (fixed 1 load), padLeft 5 (fixed 1 share),
    "  0:0" ++ ofInt seconds ++ "." ++ ofInt hundredths, shortName p.command])

/-- Prints a summary of load, memory and processes. -/
def top (c : Context) : Draws String := do
  let use ← drawMemoryUse c
  let load ← drawLoad
  let table := processTable c (← processOf c.sessionId)
  let idle ← Draws.uniform 94.0 99.0
  let user ← Draws.uniform 0.3 ((100.0 - idle) * 0.8)
  let system := 100.0 - idle - user
  let now ← c.moment
  let minutes ← drawUptime
  let total ← megabytes use.total
  let free ← megabytes use.free
  let used ← megabytes use.used
  let cache ← megabytes use.cache
  let swap ← megabytes c.device.swapTotalKb
  let none ← megabytes 0
  let available ← megabytes use.available
  let percent (x : Float) : String := padLeft 4 (fixed 1 x)
  let rows ← table.mapM summaryRow
  pure (Text.block ([
    "top - " ++ loadLine now minutes load,
    "Tasks: " ++ padLeft 3 (ofInt (table.length + 90)) ++ " total,   1 running, " ++
      padLeft 3 (ofInt (table.length + 89)) ++ " sleeping,   0 stopped,   0 zombie",
    "%Cpu(s): " ++ percent user ++ " us, " ++ percent system ++ " sy,  0.0 ni, " ++ percent idle ++
      " id,  0.0 wa,  0.0 hi,  0.0 si,  0.0 st",
    "MiB Mem : " ++ total ++ " total, " ++ free ++ " free, " ++ used ++ " used, " ++ cache ++
      " buff/cache",
    "MiB Swap: " ++ swap ++ " total, " ++ swap ++ " free, " ++ none ++ " used. " ++ available ++
      " avail Mem",
    "",
    "    PID USER      PR  NI    VIRT    RES    SHR S  %CPU  %MEM     TIME+ COMMAND"] ++ rows))

/-! ## Disks -/

/-- A row of the table of disks, in kilobytes. -/
structure Disk where
  device : String
  size : Int
  used : Int
  place : String
  deriving Repr, DecidableEq

def drawDisks (p : Persona) : Draws (List Disk) := do
  let half := Int.fdiv p.memTotalKb 2
  let used ← Hardware.share p.diskRootKb (← Draws.uniform 0.10 0.25)
  let shared ← Draws.between 0 64
  let running ← Draws.between 800 2400
  let disks : List Disk := [
    ⟨p.rootDevice, p.diskRootKb, used, "/"⟩,
    ⟨"devtmpfs", half - 8192, 0, "/dev"⟩,
    ⟨"tmpfs", half, shared, "/dev/shm"⟩,
    ⟨"tmpfs", Int.fdiv p.memTotalKb 10, running, "/run"⟩]
  match p.bootDevice with
  | none => pure disks
  | some device => do
    let size : Int := if p.isArm then 258095 else 523248
    let used ← Hardware.share size (← Draws.uniform 0.15 0.25)
    pure (disks ++ [⟨device, size, used, "/boot"⟩])

/-- The part of a disk that is in use, in full percents. -/
def Disk.share (d : Disk) : String :=
  if d.size = 0 then "-" else ofInt (Int.fdiv (d.used * 100 + d.size - 1) d.size) ++ "%"

def Disk.row (human : Bool) (d : Disk) : Except Fault String := do
  let rest := d.size - d.used
  let tail := padLeft 4 d.share ++ " " ++ d.place
  if human then
    pure (padRight 15 d.device ++ " " ++ padLeft 4 (← humanSize d.size) ++ "  " ++
      padLeft 4 (← humanSize d.used) ++ "  " ++ padLeft 4 (← humanSize rest) ++ " " ++ tail)
  else
    pure (padRight 14 d.device ++ " " ++ padLeft 10 (ofInt d.size) ++ " " ++
      padLeft 7 (ofInt d.used) ++ " " ++ padLeft 9 (ofInt rest) ++ " " ++ tail)

/-- Prints how the disks are used. -/
def df (c : Context) (inv : Invocation) : Draws String := do
  let human := inv.hasLetter 'h'
  let disks ← drawDisks c.device
  let heading :=
    if human then "Filesystem      Size  Used Avail Use% Mounted on"
    else "Filesystem     1K-blocks    Used Available Use% Mounted on"
  let rows : List String ← (disks.mapM (Disk.row human) : Except Fault (List String))
  pure (Text.block (heading :: rows))

end Honeypot.Shell
