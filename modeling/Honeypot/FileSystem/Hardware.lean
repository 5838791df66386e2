import Honeypot.Fault
import Honeypot.Number.Fixed
import Honeypot.Persona.Basic

/-!
# What the kernel tells about the hardware

The texts of the files below `/proc` that depend on the device alone. Each processor core has a
paragraph of its own in the table of processors.
-/

namespace Honeypot.Hardware

/-- The paragraph of a core of a device with a PCI bus. -/
def pciCore (p : Persona) (core : Nat) : String := Text.block [
  "processor\t: " ++ Text.ofNat core,
  "vendor_id\t: GenuineIntel",
  "cpu family\t: 6",
  "model\t\t: 158",
  "model name\t: " ++ p.cpuModel,
  "stepping\t: 10",
  "microcode\t: 0xf0",
  "cpu MHz\t\t: 3000.000",
  "cache size\t: 9216 KB",
  "physical id\t: 0",
  "siblings\t: " ++ Text.ofInt p.cpuCores,
  "core id\t\t: " ++ Text.ofNat core,
  "cpu cores\t: " ++ Text.ofInt p.cpuCores,
  "fpu\t\t: yes",
  "flags\t\t: fpu vme de pse tsc msr pae mce cx8 apic sep mtrr pge mca cmov pat pse36 " ++
    "clflush dts acpi mmx fxsr sse sse2 ss ht tm pbe syscall nx pdpe1gb rdtscp lm constant_tsc " ++
    "art arch_perfmon pebs bts rep_good nopl xtopology nonstop_tsc cpuid aperfmperf pni " ++
    "pclmulqdq dtes64 monitor ds_cpl vmx smx est tm2 ssse3 sdbg fma cx16 xtpr pdcm pcid sse4_1 " ++
    "sse4_2 x2apic movbe popcnt aes xsave avx f16c rdrand lahf_lm abm 3dnowprefetch " ++
    "cpuid_fault epb invpcid_single pti ssbd ibrs ibpb stibp tpr_shadow vnmi flexpriority ept " ++
    "vpid ept_ad fsgsbase tsc_adjust bmi1 avx2 smep bmi2 erms invpcid mpx rdseed adx smap " ++
    "clflushopt intel_pt xsaveopt xsavec xgetbv1 xsaves dtherm ida arat pln pts hwp hwp_notify " ++
    "hwp_act_window hwp_epp md_clear flush_l1d",
  "bogomips\t: 6000.00",
  "clflush size\t: 64",
  "address sizes\t: 39 bits physical, 48 bits virtual"]

/-- The paragraph of a core of a MIPS device. -/
def mipsCore (p : Persona) (core : Nat) : String := Text.block [
  "processor\t\t: " ++ Text.ofNat core,
  "cpu model\t\t: " ++ p.cpuModel,
  "BogoMIPS\t\t: 586.13",
  "wait instruction\t: yes",
  "microsecond timers\t: yes",
  "tlb_entries\t\t: 32",
  "isa\t\t\t: mips1 mips2 mips32r1 mips32r2",
  "ASEs implemented\t: mips16 dsp mt"]

/-- The paragraph of a core of an ARM device. -/
def armCore (p : Persona) (core : Nat) : String := Text.block [
  "processor\t: " ++ Text.ofNat core,
  "model name\t: " ++ p.cpuModel,
  "BogoMIPS\t: 38.40",
  "Features\t: half thumb fastmult vfp edsp neon vfpv3 tls vfpv4 idiva idivt vfpd32 lpae " ++
    "evtstrm crc32",
  "CPU implementer\t: 0x41",
  "CPU architecture: 7",
  "CPU variant\t: 0x0",
  "CPU part\t: 0xd03",
  "CPU revision\t: 4"]

/-- What stands above the cores of a MIPS device. -/
def mipsHead (p : Persona) : String := Text.block [
  "system type\t\t: " ++ p.hardware ++ " ver:1 eco:3",
  "machine\t\t\t: " ++ p.model]

/-- What stands below the cores of an ARM device. -/
def armTail (p : Persona) : String := Text.block [
  "",
  "Hardware\t: " ++ p.hardware,
  "Revision\t: a02082",
  "Serial\t\t: 00000000a1b2c3d4",
  "Model\t\t: " ++ p.model]

/-- The paragraphs of all cores, with an empty line between neighbours. -/
def cores (p : Persona) (paragraph : Nat → String) : String :=
  Text.join "\n" ((List.range p.cpuCores.toNat).map paragraph)

def processors (p : Persona) : String :=
  if p.hasPciBus then cores p (pciCore p)
  else if p.isMips then mipsHead p ++ cores p (mipsCore p)
  else cores p (armCore p) ++ armTail p

/-- The integer part of a share of a quantity. -/
def share (n : Int) (part : Float) : Except Fault Int :=
  if Number.isInRange n then .ok (Number.truncate (Float.ofInt n * part))
  else .error .hugeQuantity

def memoryRow (label : String) (kb : Int) : String :=
  Text.padRight 16 (label ++ ":") ++ Text.padLeft 10 (Text.ofInt kb) ++ " kB"

def memory (p : Persona) : Except Fault String := do
  let part := share p.memTotalKb
  pure (Text.block [
    memoryRow "MemTotal" p.memTotalKb,
    memoryRow "MemFree" (← part 0.58),
    memoryRow "MemAvailable" (← part 0.77),
    memoryRow "Buffers" (← part 0.038),
    memoryRow "Cached" (← part 0.2),
    memoryRow "SwapCached" 0,
    memoryRow "Active" (← part 0.22),
    memoryRow "Inactive" (← part 0.12),
    memoryRow "SwapTotal" p.swapTotalKb,
    memoryRow "SwapFree" p.swapTotalKb])

/-- The line that a kernel gives of itself. -/
def kernelLine (p : Persona) : Except Fault String :=
  match p.kernelRelease? with
  | some release =>
    .ok ("Linux version " ++ release ++ " (gcc version 10.2.1 20210110) " ++ p.kernelVersion)
  | none => .error .shortKernel

/-- The moment at which the device seems to have been started, three days, four hours and 17
minutes before the program was. -/
def bootMoment : Float := 1700000000.0 - 274620.0

/-- Seconds since the start of the device, and seconds that its cores were idle. -/
def uptime (now : Float) : String :=
  let up := now - bootMoment
  Number.fixed 2 up ++ " " ++ Number.fixed 2 (up * 3.7) ++ "\n"

end Honeypot.Hardware
